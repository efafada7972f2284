import CodeRepair.Proofs.Schema.RoundTrip
import CodeRepair.Proofs.Toml.Document
import CodeRepair.Schema.Toml

/-!
What is written along a shape as a TOML document is read back along it, but for the fields that are absent: nothing
is written of them, so they are read as what an absent field stands for.
-/
namespace CodeRepair.Schema

open Toml (Flat Pairs Tables bare)

mutual

/-- The datum that is read where a datum was written. -/
def Shape.settle : Shape → Datum → Datum
  | .optional of, .some d => .some (of.settle d)
  | .list of, .list ds => .list (ds.map of.settle)
  | .record _ fields, .record ds => .record (fields.settle ds)
  | _, d => d

def Fields.settle : Fields → List Datum → List Datum
  | .cons _ rule shape rest, d :: ds =>
    (match d with
      | .none => rule.absent.getD .none
      | d => shape.settle d) :: rest.settle ds
  | _, ds => ds

end

section Members

variable {name : String} {rule : FieldRule} {shape : Shape} {fields rest : Fields} {d : Datum} {ds : List Datum}
  {members : List (String × Toml.Value)}

theorem Fields.toTomlMembers_cons (h : (Fields.cons name rule shape rest).toTomlMembers (d :: ds) = some members) :
    ∃ ms, rest.toTomlMembers ds = some ms ∧
      ((d = .none ∧ members = ms) ∨ (d ≠ .none ∧ ∃ v, shape.toToml d = some v ∧ members = (name, v) :: ms)) := by
  rw [Fields.toTomlMembers] at h
  obtain ⟨ms, hms, h⟩ := Option.bind_eq_some_iff.1 h
  refine ⟨ms, hms, ?_⟩
  split at h
  · cases h
    exact .inl ⟨rfl, rfl⟩
  next hd =>
    obtain ⟨v, hv, h⟩ := Option.bind_eq_some_iff.1 h
    cases h
    exact .inr ⟨hd, v, hv, rfl⟩

theorem Fields.keys_toTomlMembers : (fields : Fields) → (ds : List Datum) → {members : List (String × Toml.Value)} →
    fields.toTomlMembers ds = some members → (members.map (·.1)).Sublist fields.names
  | .nil, _, _, h => by
    cases h
    exact .slnil
  | .cons name rule shape rest, [], _, h => by
    cases h
    exact List.nil_sublist _
  | .cons name rule shape rest, d :: ds, _, h => by
    obtain ⟨ms, hms, ⟨-, rfl⟩ | ⟨-, v, -, rfl⟩⟩ := Fields.toTomlMembers_cons h
    · exact (Fields.keys_toTomlMembers rest ds hms).cons name
    · exact (Fields.keys_toTomlMembers rest ds hms).cons_cons name

theorem Fields.ofTomlMembers_cons (v : Toml.Value) : (fields : Fields) → name ∉ fields.names →
    fields.ofTomlMembers ((name, v) :: members) = fields.ofTomlMembers members
  | .nil, _ => rfl
  | .cons name' rule shape rest, h => by
    rw [Fields.names, List.mem_cons, not_or] at h
    have hfind : ((name, v) :: members).find? (·.1 = name') = members.find? (·.1 = name') :=
      List.find?_cons_of_neg (by simpa using h.1)
    rw [Fields.ofTomlMembers, Fields.ofTomlMembers, hfind, Fields.ofTomlMembers_cons v rest h.2]

end Members

theorem mapM_map {α β γ : Type} {f : α → Option β} {g : β → Option γ} {e : α → γ} {as : List α} {bs : List β}
    (h : ∀ a ∈ as, ∀ b, f a = some b → g b = some (e a)) (hbs : as.mapM f = some bs) : bs.mapM g = some (as.map e) := by
  induction as generalizing bs with
  | nil =>
    cases hbs
    rfl
  | cons a as ih =>
    rw [List.mapM_cons] at hbs
    obtain ⟨b, hb, hbs⟩ := Option.bind_eq_some_iff.1 hbs
    obtain ⟨bs', hbs', hcons⟩ := Option.bind_eq_some_iff.1 hbs
    cases hcons
    have ih := ih (fun a ha ↦ h a (by simp [ha])) hbs'
    simp [h a (by simp) b hb, ih]

mutual

theorem Shape.ofToml_toToml : (shape : Shape) → shape.wellFormed = true → (d : Datum) → shape.Fits d →
    (v : Toml.Value) → shape.toToml d = some v → shape.ofToml v = some (shape.settle d)
  | .bool, _, .bool b, _, _, h => by
    cases h
    rfl
  | .text, _, .text s, _, _, h => by
    cases h
    rfl
  | .path, _, .text s, _, _, h => by
    cases h
    rfl
  | .integer range, _, .int n, .integer hn, v, h => by
    rw [Shape.toToml] at h
    split at h
    · cases h
      rw [Shape.ofToml, if_pos hn]
      rfl
    · cases h
  | .optional of, _, _, .absent _, v, h => by cases h
  | .optional of, hw, .some d, .present hd, v, h => by
    have hof := (hd.opens_present hw).1
    have ih := Shape.ofToml_toToml of hof d hd v h
    rw [Shape.ofToml, ih]
    rfl
  | .list of, hw, .list ds, .list hds, v, h => by
    obtain ⟨vs, hvs, rfl⟩ := Option.map_eq_some_iff.1 h
    have hread := mapM_map (fun d hd v hv ↦ Shape.ofToml_toToml of hw d (hds d hd) v hv) hvs
    rw [Shape.ofToml, hread]
    rfl
  | .choice options, hw, .choice i, .choice hi, v, h => by
    cases h
    have hfind : options.findIdx? (· = options[i]) = some i :=
      findIdx?_nodup (f := id) (by simpa [Shape.wellFormed] using hw) (List.getElem?_eq_getElem hi)
    have hname : options.getD i "" = options[i] := by simp [hi]
    rw [Shape.ofToml, choiceOfToml, hname]
    simp only [hfind]
    rfl
  | .record name fields, hw, .record ds, .record hds, v, h => by
    simp only [Shape.wellFormed, Bool.and_eq_true, decide_eq_true_eq] at hw
    obtain ⟨members, hmembers, rfl⟩ := Option.map_eq_some_iff.1 h
    rw [Shape.ofToml, Fields.ofToml_toToml fields hw.2 hw.1 ds hds members hmembers]
    rfl

theorem Fields.ofToml_toToml : (fields : Fields) → fields.wellFormed = true → fields.names.Nodup → (ds : List Datum) →
    fields.Fits ds → (members : List (String × Toml.Value)) → fields.toTomlMembers ds = some members →
    fields.ofTomlMembers members = some (fields.settle ds)
  | .nil, _, _, _, .nil, _, h => rfl
  | .cons name rule shape rest, hw, hnames, d :: ds, .cons hd hds, members, h => by
    simp only [Fields.wellFormed, Bool.and_eq_true] at hw
    rw [Fields.names, List.nodup_cons] at hnames
    obtain ⟨ms, hms, hcase⟩ := Fields.toTomlMembers_cons h
    have ih := Fields.ofToml_toToml rest hw.2 hnames.2 ds hds ms hms
    rcases hcase with ⟨rfl, rfl⟩ | ⟨hne, v, hv, rfl⟩
    · have hfind : members.find? (·.1 = name) = none := by
        rw [Toml.Members.find?_none_iff]
        exact fun hname ↦ hnames.1 ((rest.keys_toTomlMembers ds hms).subset hname)
      cases hd
      rw [Fields.ofTomlMembers, Fields.settle, hfind, ih]
      cases hrule : rule.absent <;> simp only [absentField, hrule] <;> rfl
    · have hread := Shape.ofToml_toToml shape hw.1.2 d hd v hv
      rw [Fields.ofTomlMembers, Fields.ofTomlMembers_cons v rest hnames.1, ih]
      simp only [List.find?_cons_of_pos, decide_true, hread]
      cases d with
      | none => exact absurd rfl hne
      | _ => rfl

end

section Layout

/-- Whether a datum of a shape takes a line, or some lines, of a document. -/
def Shape.flat : Shape → Bool
  | .text | .path | .choice _ | .list .text => true
  | .integer range => 0 ≤ range.low
  | .optional of => of.flat
  | _ => false

def Fields.filled : Fields → Bool
  | .nil => false
  | .cons _ _ (.optional _) rest => rest.filled
  | .cons .. => true

mutual

/-- Whether a datum of a shape is written as a table with something in it, and with tables at most `depth` deep. -/
def Shape.tabular (depth : Nat) : Shape → Bool
  | .record _ fields =>
    match depth with
    | 0 => false
    | depth + 1 => fields.filled && fields.headed depth
  | .optional of => of.tabular depth
  | _ => false

/-- Whether the fields of a record are written as values and then as tables. -/
def Fields.headed (depth : Nat) : Fields → Bool
  | .nil => true
  | .cons name _ shape rest =>
    bare name && (shape.flat && rest.headed depth || shape.tabular depth && rest.nested depth)

def Fields.nested (depth : Nat) : Fields → Bool
  | .nil => true
  | .cons name _ shape rest => bare name && shape.tabular depth && rest.nested depth

end

theorem Fields.filled_ne_nil : (fields : Fields) → fields.filled = true → (ds : List Datum) → fields.Fits ds →
    {members : List (String × Toml.Value)} → fields.toTomlMembers ds = some members → members ≠ []
  | .cons name rule shape rest, hfilled, d :: ds, .cons hd hds, _, h => by
    obtain ⟨ms, hms, ⟨rfl, rfl⟩ | ⟨-, v, -, rfl⟩⟩ := Fields.toTomlMembers_cons h
    · cases hd
      exact Fields.filled_ne_nil rest hfilled ds hds hms
    · exact List.cons_ne_nil _ _

theorem flat_of_list {ds : List Datum} {vs : List Toml.Value} (h : ∀ d ∈ ds, Shape.text.Fits d)
    (hvs : ds.mapM Shape.text.toToml = some vs) : Flat (.array vs) := by
  have hstrings : ∃ ss : List String, vs = ss.map .string := by
    induction ds generalizing vs with
    | nil =>
      cases hvs
      exact ⟨[], rfl⟩
    | cons d ds ih =>
      rw [List.mapM_cons] at hvs
      obtain ⟨v, hv, hvs⟩ := Option.bind_eq_some_iff.1 hvs
      obtain ⟨vs', hvs', hcons⟩ := Option.bind_eq_some_iff.1 hvs
      cases hcons
      obtain ⟨ss, rfl⟩ := ih (fun d hd ↦ h d (by simp [hd])) hvs'
      cases h d (by simp) with
      | text s =>
        cases hv
        exact ⟨s :: ss, rfl⟩
  obtain ⟨ss, rfl⟩ := hstrings
  exact .strings ss

theorem Shape.Fits.flat : (shape : Shape) → shape.flat = true → {d : Datum} → shape.Fits d → {v : Toml.Value} →
    shape.toToml d = some v → Flat v
  | .text, _, _, .text s, _, h => by
    cases h
    exact .string s
  | .path, _, _, .path s, _, h => by
    cases h
    exact .string s
  | .choice options, _, _, .choice _, _, h => by
    cases h
    exact .string _
  | .list .text, _, _, .list hds, _, h => by
    obtain ⟨vs, hvs, rfl⟩ := Option.map_eq_some_iff.1 h
    exact flat_of_list hds hvs
  | .integer range, hflat, .int n, .integer hn, _, h => by
    have hlow : 0 ≤ range.low := by simpa [Shape.flat] using hflat
    obtain ⟨n, rfl⟩ := Int.eq_ofNat_of_zero_le (Int.le_trans hlow hn.1)
    rw [Shape.toToml] at h
    split at h
    next hsmall =>
      cases h
      exact .int n (Int.ofNat_lt.1 hsmall.2)
    · cases h
  | .optional of, _, _, .absent _, _, h => by cases h
  | .optional of, hflat, _, .present hd, _, h => Shape.Fits.flat of hflat hd h

mutual

theorem Shape.tables {n : Nat} {k : String} (hk : bare k = true) : (shape : Shape) → shape.wellFormed = true →
    shape.tabular n = true → {d : Datum} → shape.Fits d → {v : Toml.Value} →
    {rest : List (String × Toml.Value)} → shape.toToml d = some v → Tables n rest → Tables n ((k, v) :: rest)
  | .record name fields, hw, htab, .record ds, .record hds => by
    intro h hrest
    simp only [Shape.wellFormed, Bool.and_eq_true, decide_eq_true_eq] at hw
    obtain ⟨members, hmembers, rfl⟩ := Option.map_eq_some_iff.1 h
    cases n with
    | zero => cases htab
    | succ n =>
      rw [Shape.tabular, Bool.and_eq_true] at htab
      obtain ⟨pairs, tables, rfl, hpairs, htables⟩ := Fields.headed_tables fields hw.2 htab.2 ds hds hmembers
      have hkeys := (fields.keys_toTomlMembers ds hmembers).nodup hw.1
      exact .cons hk hpairs htables (Fields.filled_ne_nil fields htab.1 ds hds hmembers) hkeys hrest
  | .optional of, hw, htab, _, .absent _ => by
    intro h
    cases h
  | .optional of, hw, htab, _, .present hd => Shape.tables hk of (hd.opens_present hw).1 htab hd
  | .integer _, _, htab, _, _ => by cases htab

theorem Fields.headed_tables {n : Nat} : (fields : Fields) → fields.wellFormed = true → fields.headed n = true →
    (ds : List Datum) → fields.Fits ds → {members : List (String × Toml.Value)} →
    fields.toTomlMembers ds = some members →
    ∃ pairs tables, members = pairs ++ tables ∧ Pairs pairs ∧ Tables n tables
  | .nil, _, _, _, .nil => by
    intro h
    cases h
    exact ⟨[], [], rfl, nofun, .nil n⟩
  | .cons name rule shape rest, hw, hhead, d :: ds, .cons hd hds => by
    intro h
    simp only [Fields.wellFormed, Bool.and_eq_true] at hw
    simp only [Fields.headed, Bool.and_eq_true, Bool.or_eq_true] at hhead
    obtain ⟨ms, hms, hcase⟩ := Fields.toTomlMembers_cons h
    obtain ⟨hbare, ⟨hflat, hhead⟩ | ⟨htab, hnest⟩⟩ := hhead
    · obtain ⟨pairs, tables, rfl, hpairs, htables⟩ := Fields.headed_tables rest hw.2 hhead ds hds hms
      rcases hcase with ⟨-, rfl⟩ | ⟨-, v, hv, rfl⟩
      · exact ⟨pairs, tables, rfl, hpairs, htables⟩
      · refine ⟨(name, v) :: pairs, tables, rfl, ?_, htables⟩
        exact List.forall_mem_cons.2 ⟨⟨hbare, hd.flat shape hflat hv⟩, hpairs⟩
    · have htables := Fields.nested_tables rest hw.2 hnest ds hds hms
      rcases hcase with ⟨-, rfl⟩ | ⟨-, v, hv, rfl⟩
      · exact ⟨[], _, rfl, nofun, htables⟩
      · exact ⟨[], (name, v) :: ms, rfl, nofun, Shape.tables hbare shape hw.1.2 htab hd hv htables⟩

theorem Fields.nested_tables {n : Nat} : (fields : Fields) → fields.wellFormed = true → fields.nested n = true →
    (ds : List Datum) → fields.Fits ds → {members : List (String × Toml.Value)} →
    fields.toTomlMembers ds = some members → Tables n members
  | .nil, _, _, _, .nil => by
    intro h
    cases h
    exact .nil n
  | .cons name rule shape rest, hw, hnest, d :: ds, .cons hd hds => by
    intro h
    simp only [Fields.wellFormed, Bool.and_eq_true] at hw
    simp only [Fields.nested, Bool.and_eq_true] at hnest
    obtain ⟨ms, hms, hcase⟩ := Fields.toTomlMembers_cons h
    have htables := Fields.nested_tables rest hw.2 hnest.2 ds hds hms
    rcases hcase with ⟨-, rfl⟩ | ⟨-, v, hv, rfl⟩
    · exact htables
    · exact Shape.tables hnest.1.1 shape hw.1.2 hnest.1.2 hd hv htables

end

def Shape.document : Shape → Bool
  | .record _ fields => fields.nested (Toml.depthLimit - 1)
  | _ => false

theorem Shape.parse_writeDocument {shape : Shape} {d : Datum} {members : List (String × Toml.Value)}
    (hw : shape.wellFormed = true) (hdoc : shape.document = true) (h : shape.Fits d)
    (hmembers : shape.toToml d = some (.table members)) : Toml.parse (Toml.writeDocument members) = some members := by
  cases h with
  | record h =>
    simp only [Shape.wellFormed, Bool.and_eq_true, decide_eq_true_eq] at hw
    obtain ⟨ms, hms, heq⟩ := Option.map_eq_some_iff.1 hmembers
    cases heq
    have hkeys := (Fields.keys_toTomlMembers _ _ hms).nodup hw.1
    exact Toml.parse_writeDocument (Fields.nested_tables _ hw.2 hdoc _ h hms) hkeys (by decide)
  | _ => cases hdoc

end Layout

section Types

variable {α : Type} [HasShape α]

/-- The document of a value is read as the value that its datum settles to. -/
theorem parseToml_toTomlText [LawfulShape α] {a b : α} {text : String} (hw : (shape α).wellFormed = true)
    (hdoc : (shape α).document = true) (h : Fits a) (hsettle : (shape α).settle (toDatum a) = toDatum b)
    (htext : toTomlText? a = some text) : parseToml α text = some b := by
  obtain ⟨v, hv, htext⟩ := Option.bind_eq_some_iff.1 htext
  have hread := Shape.ofToml_toToml _ hw _ h v hv
  rw [hsettle] at hread
  cases v with
  | table members =>
    cases htext
    rw [parseToml, Shape.parse_writeDocument hw hdoc h hv]
    simp only [Option.bind_eq_bind, Option.bind_some, hread, ofDatum?_toDatum]
  | _ => cases htext

end Types

end CodeRepair.Schema
