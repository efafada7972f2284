import CodeRepair.Proofs.Schema.Readers
import CodeRepair.Proofs.Time.Stamp
import Mathlib.Data.List.Nodup

/-!
What is written along a shape is read back along it, when the names of a shape tell its parts apart and what is left
out is what an absent field stands for.
-/
namespace CodeRepair.Schema

open Json Json.Access

def Shape.written (shape : Shape) (d : Datum) : List Char := writeCompact (shape.toValue d)

/-- A datum that its own text is read as. -/
def Shape.Survives (shape : Shape) (d : Datum) : Prop := shape.parse (shape.toValue d).compact = .ok d

mutual

/-- A datum of a shape, with its numbers in their ranges. -/
inductive Shape.Fits : Shape → Datum → Prop
  | bool (b : Bool) : Shape.Fits .bool (.bool b)
  | text (s : String) : Shape.Fits .text (.text s)
  | path (s : String) : Shape.Fits .path (.text s)
  | integer {range : IntRange} {n : Int} (h : range.low ≤ n ∧ n ≤ range.high) : Shape.Fits (.integer range) (.int n)
  | real {x : Float} (h : Shape.Survives .real (.real x)) : Shape.Fits .real (.real x)
  | single {x : Float32} (h : Shape.Survives .single (.single x)) : Shape.Fits .single (.single x)
  | time {t : Time.Stamp} (h : t.Written) : Shape.Fits .time (.time t)
  | absent (of : Shape) : Shape.Fits (.optional of) .none
  | present {of : Shape} {d : Datum} (h : Shape.Fits of d) : Shape.Fits (.optional of) (.some d)
  | list {of : Shape} {ds : List Datum} (h : ∀ d ∈ ds, Shape.Fits of d) : Shape.Fits (.list of) (.list ds)
  | choice {options : List String} {i : Nat} (h : i < options.length) : Shape.Fits (.choice options) (.choice i)
  | tagged {name : String} {variants : List (String × Bool)} {i : Nat} {detail : Option String} (tag : String)
      (h : variants[i]? = some (tag, detail.isSome)) : Shape.Fits (.tagged name variants) (.tagged i detail)
  | record {name : String} {fields : Fields} {ds : List Datum} (h : Fields.Fits fields ds) :
      Shape.Fits (.record name fields) (.record ds)

inductive Fields.Fits : Fields → List Datum → Prop
  | nil : Fields.Fits .nil []
  | cons {name : String} {rule : FieldRule} {shape : Shape} {rest : Fields} {d : Datum} {ds : List Datum}
      (h : Shape.Fits shape d) (hrest : Fields.Fits rest ds) : Fields.Fits (.cons name rule shape rest) (d :: ds)

end

def Fields.names : Fields → List String
  | .nil => []
  | .cons name _ _ rest => name :: rest.names

def absentIsNone (rule : FieldRule) (shape : Shape) : Bool :=
  match rule.absent, shape with
  | some .none, _ => true
  | none, .optional _ => true
  | _, _ => false

mutual

/-- Whether the parts of a shape can be told apart in a text: numbers fit 64 bits, names are given once, and what can
be null is not optional again. -/
def Shape.wellFormed : Shape → Bool
  | .integer range => -(Nat.pow 2 63) ≤ range.low && range.high < Nat.pow 2 64
  | .optional (.optional _) => false
  | .optional of => of.wellFormed
  | .list of => of.wellFormed
  | .choice options => options.Nodup
  | .tagged _ variants => (variants.map (·.1)).Nodup
  | .record _ fields => decide fields.names.Nodup && fields.wellFormed
  | _ => true

/-- Whether the fields of a record can be told apart, and those left out are `none` when absent. -/
def Fields.wellFormed : Fields → Bool
  | .nil => true
  | .cons _ rule shape rest => (!rule.omitNone || absentIsNone rule shape) && shape.wellFormed && rest.wellFormed

end

section Alone

variable {shape : Shape} {d : Datum}

theorem Shape.Survives.read (h : shape.Survives d) :
    ∃ c, shape.reader depthLimit (Cursor.ofChars (shape.written d)) = .ok (d, c) ∧ finish c = .ok () := by
  rw [Shape.Survives, Shape.parse, Value.compact, String.toList_ofList] at h
  rw [Shape.written]
  cases hread : shape.reader depthLimit (Cursor.ofChars (writeCompact (shape.toValue d))) with
  | error fault =>
    rw [hread] at h
    cases h
  | ok r =>
    obtain ⟨d', c⟩ := r
    rw [hread] at h
    simp only [bind, Except.bind] at h
    cases hfinish : finish c with
    | error fault =>
      rw [hfinish] at h
      cases h
    | ok u =>
      rw [hfinish] at h
      cases h
      exact ⟨c, rfl, hfinish⟩

theorem Shape.Survives.real {x : Float} (h : Shape.Survives .real (.real x)) :
    Opens (Shape.real.written (.real x)) ∧
      ∀ depth, ReadsAs (Shape.real.reader depth) (Shape.real.written (.real x)) (.real x) := by
  obtain ⟨c, hread, hfinish⟩ := h.read
  obtain ⟨hopens, hreads⟩ := readNumber_real hread hfinish
  exact ⟨hopens, fun _ ↦ hreads⟩

theorem Shape.Survives.single {x : Float32} (h : Shape.Survives .single (.single x)) :
    Opens (Shape.single.written (.single x)) ∧
      ∀ depth, ReadsAs (Shape.single.reader depth) (Shape.single.written (.single x)) (.single x) := by
  obtain ⟨c, hread, hfinish⟩ := h.read
  obtain ⟨hopens, hreads⟩ := readNumber_real hread hfinish
  exact ⟨hopens, fun _ ↦ hreads⟩

theorem Shape.Fits.opens (h : shape.Fits d) (hnone : d ≠ .none) (hsome : ∀ d', d ≠ .some d') :
    Opens (shape.written d) := by
  cases h with
  | bool b => cases b <;> exact ⟨_, _, rfl, rfl, by decide, by decide⟩
  | integer _ => exact opens_int _
  | real h => exact h.real.1
  | single h => exact h.single.1
  | absent _ => exact absurd rfl hnone
  | present _ => exact absurd rfl (hsome _)
  | _ => exact ⟨_, _, rfl, rfl, by decide, by decide⟩

theorem Shape.Fits.opens_present {of : Shape} (hw : (Shape.optional of).wellFormed = true) (h : of.Fits d) :
    of.wellFormed = true ∧ Opens (of.written d) := by
  have hnone : d ≠ .none := by
    rintro rfl
    cases h
    cases hw
  have hsome (d' : Datum) : d ≠ .some d' := by
    rintro rfl
    cases h
    cases hw
  refine ⟨?_, h.opens hnone hsome⟩
  cases h with
  | absent _ => cases hw
  | present _ => cases hw
  | _ => exact hw

theorem Shape.Fits.begins (hw : shape.wellFormed = true) (h : shape.Fits d) : Begins (shape.written d) := by
  cases d with
  | none =>
    cases h
    exact ⟨'n', _, rfl, rfl, by decide⟩
  | some d =>
    cases h with
    | present h => exact (h.opens_present hw).2.begins
  | _ => exact (h.opens nofun nofun).begins

end Alone

section Members

variable {c : Cursor} {text rest : List Char} {name : String} {read : Reader} {before after : List (String × Reader)}
  {done blank : List (Option Datum)} {d : Datum} {first : Bool}

/-- A member whose name is that of the field after those in `before` fills the slot of that field. -/
theorem readMembers_member (hread : ReadsAs read text d) (hname : name ∉ before.map (·.1))
    (hdone : done.length = before.length) (hrest : Closes rest)
    (h : c.rest = (if first then writeString name ++ ':' :: text else ',' :: (writeString name ++ ':' :: text)) ++ rest)
    (fuel : Nat) :
    ∃ c', c'.rest = rest ∧
      readMembers (before ++ (name, read) :: after) first (done ++ none :: blank) c (fuel + 1) =
        readMembers (before ++ (name, read) :: after) false (done ++ some d :: blank) c' fuel := by
  obtain ⟨c₁, hkey, hrest₁⟩ := key?_listed h
  obtain ⟨c₂, hcolon, hrest₂⟩ := colon_eq hrest₁
  obtain ⟨c₃, hd, hrest₃⟩ := hread c₂ rest hrest₂ hrest
  have hfresh : ∀ r ∈ before, decide (r.1 = name) = false := by
    intro r hr
    simp only [decide_eq_false_iff_not]
    rintro rfl
    exact hname (List.mem_map_of_mem hr)
  have hindex : (before ++ (name, read) :: after).findIdx? (·.1 = name) = some before.length := by
    rw [List.findIdx?_append, List.findIdx?_eq_none_iff.2 hfresh]
    simp [List.findIdx?_cons]
  have hfind : (before ++ (name, read) :: after).find? (·.1 = name) = some (name, read) := by
    rw [List.find?_append, List.find?_eq_none.2 (by simpa using hfresh)]
    simp
  have hempty : (((done ++ none :: blank)[before.length]?).join).isSome = false := by
    rw [← hdone]
    simp
  have hset : (done ++ none :: blank).set before.length (some d) = done ++ some d :: blank := by
    rw [← hdone]
    simp
  refine ⟨c₃, hrest₃, ?_⟩
  rw [readMembers, hkey]
  simp only [bind, Except.bind, hindex, hfind, hempty, hcolon, hd, Registry.mapError_ok, hset]
  rfl

/-- The fields of a record that are written, in the slots of all of them. -/
def Fields.slots : Fields → List Datum → List (Option Datum)
  | .cons _ rule _ rest, d :: ds =>
    match rule.omitNone, d with
    | true, .none => none :: rest.slots ds
    | _, d => some d :: rest.slots ds
  | _, _ => []

def Fields.named (fields : Fields) (depth : Nat) : List (String × Reader) :=
  (fields.readers depth).map fun (name, _, read) ↦ (name, read)

theorem absentField_eq {rule : FieldRule} {shape : Shape} (h : absentIsNone rule shape = true) :
    absentField name rule shape = .ok .none := by
  unfold absentIsNone at h
  unfold absentField
  split at h
  next hrule => rw [hrule]
  next hrule => rw [hrule]
  · cases h

theorem Fields.left_out_or (rule : FieldRule) (d : Datum) :
    (rule.omitNone = true ∧ d = .none) ∨
      ∀ (name : String) (shape : Shape) (rest : Fields) (ds : List Datum),
        (Fields.cons name rule shape rest).slots (d :: ds) = some d :: rest.slots ds ∧
          (Fields.cons name rule shape rest).toMembers (d :: ds) = (name, shape.toValue d) :: rest.toMembers ds := by
  cases homit : rule.omitNone with
  | false =>
    right
    intro name shape rest ds
    simp [Fields.slots, Fields.toMembers, homit]
  | true =>
    cases d with
    | none => exact .inl ⟨rfl, rfl⟩
    | _ =>
      right
      intro name shape rest ds
      simp [Fields.slots, Fields.toMembers, homit]

theorem Fields.left_out {rule : FieldRule} (homit : rule.omitNone = true) (name : String) (shape : Shape)
    (rest : Fields) (ds : List Datum) :
    (Fields.cons name rule shape rest).slots (.none :: ds) = none :: rest.slots ds ∧
      (Fields.cons name rule shape rest).toMembers (.none :: ds) = rest.toMembers ds := by
  simp [Fields.slots, Fields.toMembers, homit]

theorem Fields.complete_slots : (fields : Fields) → fields.wellFormed = true → (ds : List Datum) → fields.Fits ds →
    fields.complete (fields.slots ds) = .ok ds
  | .nil, _, _, .nil => rfl
  | .cons name rule shape rest, hw, d :: ds, .cons _ hds => by
    simp only [Fields.wellFormed, Bool.and_eq_true, Bool.or_eq_true, Bool.not_eq_true'] at hw
    have ih := Fields.complete_slots rest hw.2 ds hds
    rcases Fields.left_out_or rule d with ⟨homit, rfl⟩ | hwritten
    · have habsent : absentField name rule shape = .ok .none :=
        absentField_eq (hw.1.1.resolve_left (by simp [homit]))
      rw [(Fields.left_out homit name shape rest ds).1, Fields.complete]
      simp only [List.head?_cons, List.tail_cons, habsent, bind, Except.bind, ih]
      rfl
    · rw [(hwritten name shape rest ds).1, Fields.complete]
      simp only [List.head?_cons, List.tail_cons, bind, Except.bind, ih]
      rfl

theorem findIdx?_nodup {α : Type} {f : α → String} {l : List α} {i : Nat} {a : α} (hl : (l.map f).Nodup)
    (hi : l[i]? = some a) : l.findIdx? (f · = f a) = some i := by
  obtain ⟨hlt, rfl⟩ := List.getElem?_eq_some_iff.1 hi
  refine List.findIdx?_eq_some_iff_getElem.2 ⟨hlt, by simp, ?_⟩
  intro j hj
  have hne : (l.map f)[j]? ≠ (l.map f)[i]? := by
    rw [Ne, List.getElem?_inj (by simp; omega) hl]
    omega
  simpa [hlt, Nat.lt_trans hj hlt] using hne

end Members

section Parts

variable {of : Shape} {d : Datum} {depth : Nat}

theorem absent_reads (of : Shape) (depth : Nat) :
    ReadsAs ((Shape.optional of).reader depth) ((Shape.optional of).written .none) .none := by
  intro c rest h _
  obtain ⟨c', hword, hrest⟩ := Cursor.word_eq ['u', 'l', 'l'] (Cursor.rest_advance h)
  refine ⟨c', ?_, hrest⟩
  rw [Shape.reader]
  dsimp only
  rw [Cursor.skipSpace_eq h rfl, Cursor.peek?_eq h]
  simp only [if_true, bind, Except.bind, hword]
  rfl

/-- What is present is read by its own reader, as its text does not begin as null does. -/
theorem present_reads (hopens : Opens (of.written d)) (h : ReadsAs (of.reader depth) (of.written d) d) :
    ReadsAs ((Shape.optional of).reader depth) ((Shape.optional of).written (.some d)) (.some d) := by
  obtain ⟨x, xs, htext, hspace, -, hnull⟩ := hopens
  intro c rest hc hrest
  obtain ⟨c', hread, hrest'⟩ := h c rest hc hrest
  have hstart : c.rest = x :: (xs ++ rest) := hc.trans (congrArg (· ++ rest) htext)
  refine ⟨c', ?_, hrest'⟩
  rw [Shape.reader]
  dsimp only
  rw [Cursor.skipSpace_eq hstart hspace, Cursor.peek?_eq hstart]
  simp only [Option.some.injEq, if_neg hnull, bind, Except.bind, hread]
  rfl

theorem choice_reads {options : List String} (hw : options.Nodup) {i : Nat} (h : i < options.length) :
    ReadsAs ((Shape.choice options).reader depth) ((Shape.choice options).written (.choice i)) (.choice i) := by
  refine readName_written ?_
  have hfind : options.findIdx? (· = options[i]) = some i :=
    findIdx?_nodup (f := id) (by simpa using hw) (List.getElem?_eq_getElem h)
  have hname : options.getD i "" = options[i] := by simp [h]
  rw [findOption, hname, hfind]

theorem tagged_reads {name tag : String} {variants : List (String × Bool)} (hw : (variants.map (·.1)).Nodup) {i : Nat}
    (detail : Option String) (h : variants[i]? = some (tag, detail.isSome)) (depth : Nat) :
    ReadsAs ((Shape.tagged name variants).reader depth) ((Shape.tagged name variants).written (.tagged i detail))
      (.tagged i detail) := by
  have hfind : findVariant variants tag = .ok i := by
    rw [findVariant, findIdx?_nodup hw h]
  have htag : (variants.getD i ("", false)).1 = tag := by simp [h]
  cases detail with
  | none =>
    rw [Shape.written, Shape.toValue, htag]
    exact readTagged_unit h hfind depth
  | some s =>
    rw [Shape.written, Shape.toValue, htag]
    exact readTagged_detail h hfind depth

theorem record_reads {fields : Fields} {ds : List Datum} (name : String)
    (hmembers : ∀ (c : Cursor) (rest : List Char) (fuel : Nat),
      c.rest = listed true ((fields.toMembers ds).map entry) ++ '\x7d' :: rest →
      (fields.toMembers ds).length ≤ fuel →
      ∃ c', readMembers (fields.named (depth - 1)) true ((fields.named (depth - 1)).map fun _ ↦ none) c fuel =
        .ok (fields.slots ds, c') ∧ c'.rest = '\x7d' :: rest)
    (hcomplete : fields.complete (fields.slots ds) = .ok ds) :
    ReadsAs ((Shape.record name fields).reader depth) ((Shape.record name fields).written (.record ds))
      (.record ds) := by
  intro c rest h _
  have htext : c.rest = '\x7b' :: (listed true ((fields.toMembers ds).map entry) ++ '\x7d' :: rest) := by
    rw [h, Shape.written, Shape.toValue, writeCompact, writeCompactMembers_eq]
    simp
  have hlength : (fields.toMembers ds).length ≤ c.rest.length := by
    have hentries : ∀ text ∈ (fields.toMembers ds).map entry, text ≠ [] := by
      intro text htext
      obtain ⟨m, -, rfl⟩ := List.mem_map.1 htext
      exact List.cons_ne_nil _ _
    have hle := length_le_listed true hentries
    rw [htext, List.length_cons, List.length_append]
    rw [List.length_map] at hle
    omega
  obtain ⟨c₁, hread, hrest₁⟩ := hmembers c.advance rest c.rest.length (Cursor.rest_advance htext) hlength
  obtain ⟨c₂, hclosed, hrest₂⟩ := closed_object hrest₁
  refine ⟨c₂, ?_, hrest₂⟩
  simp only [Fields.named] at hread
  rw [Shape.reader, readRecord, atValue_eq htext rfl]
  simp only [bind, Except.bind, hread, hcomplete, hclosed]
  rfl

end Parts

mutual

/-- A datum is read from its text, wherever that stands. -/
theorem Shape.reads : (shape : Shape) → shape.wellFormed = true → (d : Datum) → shape.Fits d → (depth : Nat) →
    ReadsAs (shape.reader depth) (shape.written d) d
  | .bool, _, _, .bool b, _ => readBool_written b
  | .text, _, _, .text s, _ => readString_written rfl
  | .path, _, _, .path s, _ => readString_written rfl
  | .integer range, hw, .int n, .integer h, _ => by
    simp only [Shape.wellFormed, Bool.and_eq_true, decide_eq_true_eq] at hw
    exact readNumber_whole (Int.le_trans hw.1 h.1) (Int.lt_of_le_of_lt h.2 hw.2) (if_pos h)
  | .real, _, _, .real h, depth => h.real.2 depth
  | .single, _, _, .single h, depth => h.single.2 depth
  | .time, _, .time t, .time h, _ => by
    refine readString_written ?_
    rw [timeOf, String.toList_ofList, Time.Stamp.parse_text h]
  | .optional of, _, _, .absent _, depth => absent_reads of depth
  | .optional of, hw, .some d, .present h, depth => by
    obtain ⟨hof, hopens⟩ := h.opens_present hw
    exact present_reads hopens (Shape.reads of hof d h depth)
  | .list of, hw, .list ds, .list h, depth => by
    have hlist : ReadsAs (readList (of.reader (depth - 1)) "a sequence") _ _ :=
      readList_written (fun d hd ↦ Shape.reads of hw d (h d hd) (depth - 1)) (fun d hd ↦ (h d hd).begins hw)
    rw [Shape.written, Shape.toValue, writeCompact, writeCompactItems_eq, List.map_map]
    exact hlist
  | .choice options, hw, .choice i, .choice h, _ => choice_reads (of_decide_eq_true hw) h
  | .tagged name variants, hw, .tagged i detail, .tagged tag h, depth =>
    tagged_reads (of_decide_eq_true hw) detail h depth
  | .record name fields, hw, .record ds, .record hfields, depth => by
    simp only [Shape.wellFormed, Bool.and_eq_true, decide_eq_true_eq] at hw
    refine record_reads name (fun c rest fuel h hfuel ↦ ?_) (Fields.complete_slots fields hw.2 ds hfields)
    exact Fields.reads fields hw.2 ds hfields (depth - 1) [] [] rfl (by simpa using hw.1) true c rest h fuel hfuel

theorem Fields.reads : (fields : Fields) → fields.wellFormed = true → (ds : List Datum) → fields.Fits ds →
    (depth : Nat) → (before : List (String × Reader)) → (done : List (Option Datum)) →
    done.length = before.length → (before.map (·.1) ++ fields.names).Nodup → (first : Bool) → (c : Cursor) →
    (rest : List Char) → c.rest = listed first ((fields.toMembers ds).map entry) ++ '\x7d' :: rest → (fuel : Nat) →
    (fields.toMembers ds).length ≤ fuel →
    ∃ c', readMembers (before ++ fields.named depth) first (done ++ (fields.named depth).map fun _ ↦ none) c fuel =
      .ok (done ++ fields.slots ds, c') ∧ c'.rest = '\x7d' :: rest
  | .nil, _, _, .nil, depth, before, done, hdone, hnames, first, c, rest, h, fuel, hfuel => by
    refine ⟨c, ?_, h⟩
    cases fuel with
    | zero => rfl
    | succ fuel =>
      rw [readMembers, key?_end h]
      rfl
  | .cons name rule shape more, hw, d :: ds, .cons hd hds, depth, before, done, hdone, hnames, first, c, rest, h, fuel,
    hfuel => by
    simp only [Fields.wellFormed, Bool.and_eq_true] at hw
    -- The induction is on the fields, while those that were passed stay in front with their slots.
    have hmore (first : Bool) (c : Cursor) (slot : Option Datum) := Fields.reads more hw.2 ds hds depth
      (before ++ [(name, shape.reader depth)]) (done ++ [slot]) (by simp [hdone]) (by simpa [Fields.names] using hnames)
      first c rest
    simp only [List.append_assoc, List.singleton_append] at hmore
    rcases Fields.left_out_or rule d with ⟨homit, rfl⟩ | hwritten
    · obtain ⟨hslots, hmembers⟩ := Fields.left_out homit name shape more ds
      rw [hmembers] at h hfuel
      rw [hslots]
      exact hmore first c none h fuel hfuel
    · obtain ⟨hslots, hmembers⟩ := hwritten name shape more ds
      rw [hmembers] at h hfuel
      rw [hslots]
      cases fuel with
      | zero => cases hfuel
      | succ fuel =>
        have hname : name ∉ before.map (·.1) := fun hbefore ↦
          List.disjoint_of_nodup_append hnames hbefore List.mem_cons_self
        obtain ⟨c', hrest, hstep⟩ := readMembers_member (Shape.reads shape hw.1.2 d hd depth) hname hdone
          (closes_listed (.inr rfl) _ _) (h.trans (List.append_assoc _ _ _)) fuel
        obtain ⟨c'', hread, hrest'⟩ := hmore false c' (some d) hrest fuel (Nat.le_of_succ_le_succ hfuel)
        exact ⟨c'', hstep.trans hread, hrest'⟩

end

/-- A datum is what its own text is read as. -/
theorem Shape.survives {shape : Shape} {d : Datum} (hw : shape.wellFormed = true) (h : shape.Fits d) :
    shape.Survives d := by
  obtain ⟨c, hread, hrest⟩ := Shape.reads shape hw d h depthLimit (Cursor.ofChars (shape.written d)) []
    (List.append_nil _).symm nofun
  rw [Shape.Survives, Shape.parse, Value.compact, String.toList_ofList, ← Shape.written, hread]
  simp only [bind, Except.bind, finish_eq hrest]
  rfl

section Types

variable {α : Type} [HasShape α]

def Survives (a : α) : Prop := parse α (toText a) = .ok a

def Fits (a : α) : Prop := (shape α).Fits (toDatum a)

/-- A type whose values are put together again from their data. -/
class LawfulShape (α : Type) [HasShape α] : Prop where
  ofDatum?_toDatum (a : α) : ofDatum? (toDatum a) = some a

export LawfulShape (ofDatum?_toDatum)

theorem survives_of_fits [LawfulShape α] {a : α} (hw : (shape α).wellFormed = true) (h : Fits a) : Survives a := by
  have hparse : (shape α).parse (toText a) = .ok (toDatum a) := Shape.survives hw h
  unfold Survives parse
  rw [hparse]
  simp only [bind, Except.bind, ofDatum?_toDatum a]
  rfl

theorem survives_of_toOption {a : α} (h : (parse α (toText a)).toOption = some a) : Survives a := by
  unfold Survives
  cases hparse : parse α (toText a) with
  | error fault =>
    rw [hparse] at h
    cases h
  | ok b =>
    rw [hparse] at h
    cases h
    rfl

theorem Survives.datum {a : α} (h : Survives a) :
    ∃ d, (shape α).parse (toText a) = .ok d ∧ ofDatum? d = some a := by
  unfold Survives parse at h
  cases hparse : (shape α).parse (toText a) with
  | error fault =>
    rw [hparse] at h
    cases h
  | ok d =>
    rw [hparse] at h
    simp only [bind, Except.bind] at h
    cases hd : (ofDatum? d : Option α) with
    | none =>
      rw [hd] at h
      cases h
    | some b =>
      rw [hd] at h
      cases h
      exact ⟨d, rfl, hd⟩

theorem fits_float {x : Float} (h : Survives x) : Fits x := by
  obtain ⟨d, hparse, hd⟩ := h.datum
  cases d <;> cases hd
  exact .real hparse

theorem fits_float32 {x : Float32} (h : Survives x) : Fits x := by
  obtain ⟨d, hparse, hd⟩ := h.datum
  cases d <;> cases hd
  exact .single hparse

theorem fits_string (s : String) : Fits s := .text s

theorem fits_bool (b : Bool) : Fits b := .bool b

theorem fits_option {o : Option α} (h : ∀ a ∈ o, Fits a) : Fits o := by
  cases o with
  | none => exact .absent _
  | some a => exact .present (h a rfl)

theorem fits_list {as : List α} (h : ∀ a ∈ as, Fits a) : Fits as := by
  refine .list ?_
  intro d hd
  obtain ⟨a, ha, rfl⟩ := List.mem_map.1 hd
  exact h a ha

instance : LawfulShape Bool := ⟨fun _ ↦ rfl⟩

instance : LawfulShape String := ⟨fun _ ↦ rfl⟩

instance : LawfulShape Float := ⟨fun _ ↦ rfl⟩

instance : LawfulShape Float32 := ⟨fun _ ↦ rfl⟩

instance : LawfulShape Time.Stamp := ⟨fun _ ↦ rfl⟩

instance [LawfulShape α] : LawfulShape (Option α) where
  ofDatum?_toDatum o := by
    cases o with
    | none => rfl
    | some a => simp [toDatum, ofDatum?, LawfulShape.ofDatum?_toDatum a]

theorem mapM_ofDatum? [LawfulShape α] (as : List α) : (as.map toDatum).mapM ofDatum? = some as := by
  induction as with
  | nil => rfl
  | cons a as ih => simp [ofDatum?_toDatum a, ih]

instance [LawfulShape α] : LawfulShape (List α) := ⟨mapM_ofDatum?⟩

theorem natOf?_ofNat (n : Nat) : natOf? (ofNat n) = some n := rfl

theorem optionOf?_ofOption {β : Type} (f : β → Datum) (g : Datum → Option β) (h : ∀ b, g (f b) = some b)
    (o : Option β) : optionOf? g (ofOption f o) = some o := by
  cases o with
  | none => rfl
  | some b => simp [ofOption, optionOf?, h b]

theorem bind_field {β γ : Type} {o : Option β} {b : β} {rest : β → Option γ} {c : γ} (ho : o = some b)
    (hrest : rest b = some c) : o >>= rest = some c := by
  rw [ho]
  exact hrest

end Types

end CodeRepair.Schema
