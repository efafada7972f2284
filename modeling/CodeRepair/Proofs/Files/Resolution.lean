import CodeRepair.Files.Tree
import CodeRepair.Proofs.Text.Pieces
import Mathlib.Tactic.SplitIfs

/-!
Where a name in a directory leads. Seen from another standpoint it leads to the same place exactly when the directory
does.

A tree has no symbolic links, and a relative path without dots leads away from where it starts for this reason only.
-/
namespace CodeRepair.Files

namespace Path

/-- A name that stands for a file in a directory, and neither for the directory nor for the one above it. -/
structure Plain (name : String) : Prop where
  whole : '/' ∉ name.toList
  nonempty : name.toList ≠ []
  not_here : name ≠ "."
  not_above : name ≠ ".."

variable {dir name path : String}

theorem Plain.names_eq (h : Plain name) : names name = [name] := by
  have hwhole : ∀ c ∈ name.toList, decide (c = '/') = false := by
    intro c hc
    rw [decide_eq_false_iff_not]
    rintro rfl
    exact h.whole hc
  rw [names, Text.splitAt_of_none hwhole]
  simp [h.nonempty]

theorem Plain.not_absolute (h : Plain name) : isAbsolute name = false := by
  rw [isAbsolute, decide_eq_false_iff_not]
  intro hhead
  exact h.whole (List.mem_of_mem_head? hhead)

theorem toList_join (hdir : dir ≠ "") (hname : Plain name) :
    ∃ front, (join dir name).toList = front ++ '/' :: name.toList ∧
      (dir.toList = front ∨ dir.toList = front ++ ['/']) := by
  rw [join, if_neg (by simp [hname.not_absolute, hdir])]
  split
  next hlast =>
    obtain ⟨front, hfront⟩ := List.getLast?_eq_some_iff.1 hlast
    exact ⟨front, by simp [hfront], .inr hfront⟩
  · exact ⟨dir.toList, by simp, .inl rfl⟩

theorem names_join (hdir : dir ≠ "") (hname : Plain name) : names (join dir name) = names dir ++ [name] := by
  obtain ⟨front, hjoin, hfront⟩ := toList_join hdir hname
  have hslash : decide ('/' = '/') = true := rfl
  have hpieces : names (join dir name) = names (String.ofList front) ++ names name := by
    rw [names, hjoin, Text.splitAt_append hslash, List.filter_append, List.map_append]
    simp [names]
  have hdirectory : names dir = names (String.ofList front) := by
    rcases hfront with hfront | hfront
    · rw [← hfront, String.ofList_toList]
    · rw [names, hfront, Text.splitAt_append hslash]
      simp [names, Text.splitAt]
  rw [hpieces, hdirectory, hname.names_eq]

theorem isAbsolute_join (hdir : dir ≠ "") (hname : Plain name) : isAbsolute (join dir name) = isAbsolute dir := by
  obtain ⟨front, hjoin, hfront⟩ := toList_join hdir hname
  rw [isAbsolute, isAbsolute, hjoin]
  rcases hfront with hfront | hfront
  · cases front with
    | nil => exact absurd (String.toList_inj.1 hfront) hdir
    | cons c front => rw [hfront]; rfl
  · cases front with
    | nil => rw [hfront]; rfl
    | cons c front => rw [hfront]; rfl

theorem getLast?_join (hdir : dir ≠ "") (hname : Plain name) : (join dir name).toList.getLast? ≠ some '/' := by
  obtain ⟨front, hjoin, -⟩ := toList_join hdir hname
  intro hlast
  have hname' : name.toList.getLast? = some '/' := by
    rw [hjoin, List.getLast?_append, List.getLast?_cons] at hlast
    cases hend : name.toList.getLast? with
    | none => exact absurd (List.getLast?_eq_none_iff.1 hend) hname.nonempty
    | some c => simpa [hend] using hlast
  exact hname.whole (List.mem_of_getLast? hname')

theorem names_ne_nil (hdir : dir.isEmpty = false) (hrelative : isAbsolute dir = false) : names dir ≠ [] := by
  cases hlist : dir.toList with
  | nil =>
    rw [String.toList_eq_nil_iff.1 hlist] at hdir
    cases hdir
  | cons c cs =>
    have hc : c ≠ '/' := by simpa [isAbsolute, hlist] using hrelative
    rw [names, hlist, Text.splitAt]
    cases hcs : Text.splitAt (· = '/') cs with
    | nil => exact absurd hcs (Text.splitAt_ne_nil _ cs)
    | cons piece pieces => simp [hc]

end Path

namespace Tree

open CodeRepair.Files.Path

variable {t : Tree} {here there inner place : Place} {dir name path : String}

theorem follow_cons (t : Tree) (here : Place) (name : String) (rest : List String) :
    t.follow here (name :: rest) = (t.follow here [name]).bind fun place ↦ t.follow place rest := by
  rw [follow, follow]
  cases t.node? here with
  | none => rfl
  | some node =>
    cases node with
    | directory => split_ifs <;> rfl
    | sealed => split_ifs <;> rfl
    | _ => rfl

theorem follow_append (t : Tree) (here : Place) (front rest : List String) :
    t.follow here (front ++ rest) = (t.follow here front).bind fun place ↦ t.follow place rest := by
  induction front generalizing here with
  | nil => rfl
  | cons name front ih =>
    rw [List.cons_append, follow_cons, follow_cons t here name front]
    cases t.follow here [name] with
    | error fault => rfl
    | ok place => exact ih place

theorem follow_plain (hhere : name ≠ ".") (habove : name ≠ "..") (h : t.follow here [name] = .ok place) :
    place = here ++ [name] ∧ t.follow here ["."] = .ok here := by
  rw [follow] at h ⊢
  cases hnode : t.node? here with
  | none => simp [hnode] at h
  | some node =>
    have hdirectory : node = .directory ∨ node = .sealed := by
      cases node <;> simp [hnode] at h ⊢
    rcases hdirectory with rfl | rfl
    all_goals
      simp only [hnode, if_neg hhere, if_neg habove] at h
      split_ifs at h
      cases h
      exact ⟨rfl, rfl⟩

/-- The text of a path can be looked up at all. -/
structure Speakable (path : String) : Prop where
  nonempty : path.isEmpty = false
  no_nul : Char.ofNat 0 ∉ path.toList
  short : Text.Utf8.size path.toList ≤ maxPathBytes

def trail (path : String) : List String :=
  if path.toList.getLast? = some '/' then names path ++ ["."] else names path

theorem speakable_of_locate (h : t.locate here path = .ok place) : Speakable path := by
  rw [locate] at h
  split at h
  · cases h
  next hempty =>
    split at h
    · cases h
    next hnul =>
      split at h
      · cases h
      next hlong => exact ⟨by simpa using hempty, hnul, Nat.not_lt.1 hlong⟩

theorem Speakable.locate_eq (h : Speakable path) (t : Tree) (here : Place) :
    t.locate here path = t.follow (if isAbsolute path then [] else here) (trail path) := by
  rw [locate, if_neg (by simp [h.nonempty]), if_neg h.no_nul, if_neg (Nat.not_lt.2 h.short)]
  rfl

theorem follow_dot (h : t.follow here ["."] = .ok place) : place = here := by
  rw [follow] at h
  cases hnode : t.node? here with
  | none => simp [hnode] at h
  | some node =>
    cases node with
    | directory => simpa [hnode, follow, eq_comm] using h
    | sealed => simpa [hnode, follow, eq_comm] using h
    | _ => simp [hnode] at h

theorem follow_trail (hdirectory : t.follow inner ["."] = .ok inner) :
    t.follow here (trail dir) = .ok inner ↔ t.follow here (names dir) = .ok inner := by
  rw [trail]
  split
  · rw [follow_append]
    constructor
    · intro h
      cases hnames : t.follow here (names dir) with
      | error fault => simp [hnames, Except.bind] at h
      | ok place =>
        rw [hnames] at h
        rw [follow_dot h]
    · intro h
      rw [h]
      exact hdirectory
  · exact Iff.rfl

theorem follow_concat (hname : Plain name) (front : List String) (h : t.follow here (front ++ [name]) = .ok place) :
    ∃ inner, t.follow here front = .ok inner ∧ t.follow inner ["."] = .ok inner ∧ place = inner ++ [name] := by
  rw [follow_append] at h
  cases hfront : t.follow here front with
  | error fault => simp [hfront, Except.bind] at h
  | ok inner =>
    rw [hfront] at h
    obtain ⟨hplace, hdirectory⟩ := follow_plain hname.not_here hname.not_above h
    exact ⟨inner, rfl, hdirectory, hplace⟩

/-- A name in a directory leads to the same place from two standpoints exactly when the directory does. -/
theorem locate_join (hname : Plain name) (hdir : t.locate here dir = .ok inner)
    (hfile : t.locate here (join dir name) = .ok place) (there : Place) :
    t.locate there (join dir name) = .ok place ↔ t.locate there dir = .ok inner := by
  have hspeakable := speakable_of_locate hdir
  have hjoined := speakable_of_locate hfile
  have hnonempty : dir ≠ "" := by
    rintro rfl
    cases hspeakable.nonempty
  have htrail : trail (join dir name) = names dir ++ [name] := by
    rw [trail, if_neg (getLast?_join hnonempty hname), names_join hnonempty hname]
  rw [hjoined.locate_eq, isAbsolute_join hnonempty hname, htrail] at hfile ⊢
  rw [hspeakable.locate_eq] at hdir ⊢
  obtain ⟨inner', hnames, hdirectory, hplace⟩ := follow_concat hname _ hfile
  have hinner : inner' = inner := by
    rw [(follow_trail hdirectory).2 hnames] at hdir
    exact Except.ok.inj hdir
  subst hinner
  rw [follow_trail hdirectory]
  constructor
  · intro h
    obtain ⟨other, hother, -, hsame⟩ := follow_concat hname _ h
    rw [hother, (List.append_inj_left' (hplace.symm.trans hsame) rfl)]
  · intro h
    rw [follow_append, hnames] at hfile
    rw [follow_append, h]
    exact hfile

theorem locate_absolute (h : isAbsolute dir = true) (hdir : t.locate here dir = .ok inner) (there : Place) :
    t.locate there dir = .ok inner := by
  have hspeakable := speakable_of_locate hdir
  rw [hspeakable.locate_eq, if_pos h] at hdir ⊢
  exact hdir

theorem follow_down {front : List String} (hdots : ∀ name ∈ front, name ≠ "." ∧ name ≠ "..")
    (h : t.follow here front = .ok place) : place = here ++ front := by
  induction front generalizing here with
  | nil =>
    rw [List.append_nil]
    exact (Except.ok.inj h).symm
  | cons name front ih =>
    rw [follow_cons] at h
    cases hname : t.follow here [name] with
    | error fault => simp [hname, Except.bind] at h
    | ok next =>
      obtain ⟨hhere, habove⟩ := hdots name List.mem_cons_self
      rw [hname] at h
      have hnext := (follow_plain hhere habove hname).1
      rw [ih (fun name hmem ↦ hdots name (List.mem_cons_of_mem _ hmem)) h, hnext, List.append_assoc]
      rfl

/-- Here it counts that a tree has no symbolic links, one of which could lead back. -/
theorem locate_relative (hrelative : isAbsolute dir = false) (hdots : ∀ name ∈ names dir, name ≠ "." ∧ name ≠ "..") :
    t.locate here dir ≠ .ok here := by
  intro h
  have hspeakable := speakable_of_locate h
  rw [hspeakable.locate_eq, hrelative, if_neg Bool.false_ne_true] at h
  have hdown : here = here ++ names dir := by
    rw [trail] at h
    split at h
    · rw [follow_append] at h
      cases hnames : t.follow here (names dir) with
      | error fault => simp [hnames, Except.bind] at h
      | ok place =>
        rw [hnames] at h
        rw [← follow_down hdots hnames]
        exact follow_dot h
    · exact follow_down hdots h
  exact names_ne_nil hspeakable.nonempty hrelative (List.self_eq_append_right.1 hdown)

end Tree

end CodeRepair.Files
