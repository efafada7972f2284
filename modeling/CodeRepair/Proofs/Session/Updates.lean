import CodeRepair.Proofs.Session.Log

/-!
What any updates make of a session, in whatever order they come and also when they come after its end. All attempts
and all code are taken over; of the outcomes the first that ends the session stands.
-/
namespace CodeRepair.Session

/-- What is done to a session, and when: an attempt is recorded, with other code and an outcome where these are given,
or there is an outcome alone. -/
inductive Update
  | record (attempt : Attempt) (nextCode : Option String) (outcome : Option SessionState) (now : Time.Stamp)
  | finish (state : SessionState) (now : Time.Stamp)

namespace Update

def attempt? : Update → Option Attempt
  | record attempt _ _ _ => some attempt
  | finish _ _ => none

def nextCode? : Update → Option String
  | record _ nextCode _ _ => nextCode
  | finish _ _ => none

def outcome? : Update → Option SessionState
  | record _ _ outcome _ => outcome
  | finish state _ => some state

def now : Update → Time.Stamp
  | record _ _ _ now => now
  | finish _ now => now

def verdict? (u : Update) : Option SessionState := u.outcome?.filter (· ≠ .running)

theorem verdict?_eq_some_iff {u : Update} {st : SessionState} :
    u.verdict? = some st ↔ u.outcome? = some st ∧ st ≠ .running := by
  simp [verdict?, Option.filter_eq_some_iff]

end Update

def update (s : Session) : Update → Session
  | .record attempt nextCode outcome now => s.record attempt nextCode outcome now
  | .finish state now => s.finish state now

def updated (s : Session) (us : List Update) : Session := us.foldl update s

variable {s : Session} {u : Update} {us before rest : List Update} {st : SessionState}

section Step

theorem finish_eq (s : Session) (st : SessionState) (now : Time.Stamp) : s.finish st now =
    { s with
      state := if s.isComplete then s.state else st
      finishedAt := if s.isComplete then s.finishedAt else some now } := by
  unfold finish
  split <;> rfl

theorem update_eq (s : Session) (u : Update) : s.update u =
    { s with
      attempts := s.attempts ++ u.attempt?.toList
      currentCode := u.nextCode?.getD s.currentCode
      state := if s.isComplete then s.state else u.outcome?.getD s.state
      finishedAt := if s.isComplete then s.finishedAt else (u.outcome?.map fun _ ↦ u.now) <|> s.finishedAt } := by
  cases u with
  | record attempt nextCode outcome now =>
    cases outcome with
    | none => simp [update, record, Update.attempt?, Update.nextCode?, Update.outcome?]
    | some st => exact finish_eq _ st now
  | finish st now =>
    rw [update, finish_eq, Update.attempt?, Option.toList_none, List.append_nil]
    rfl

theorem update_attempts (s : Session) (u : Update) : (s.update u).attempts = s.attempts ++ u.attempt?.toList := by
  rw [update_eq]

theorem update_currentCode (s : Session) (u : Update) : (s.update u).currentCode = u.nextCode?.getD s.currentCode := by
  rw [update_eq]

theorem update_of_complete (h : s.isComplete = true) (u : Update) :
    (s.update u).state = s.state ∧ (s.update u).finishedAt = s.finishedAt := by
  rw [update_eq]
  exact ⟨if_pos h, if_pos h⟩

theorem update_of_running (h : s.state = .running) (u : Update) : (s.update u).state = u.verdict?.getD .running := by
  have hopen := (isComplete_eq_false_iff s).2 h
  have hstate : (s.update u).state = u.outcome?.getD s.state := by
    rw [update_eq]
    exact if_neg (by simp [hopen])
  rw [hstate, h, Update.verdict?]
  cases u.outcome? with
  | none => rfl
  | some st => cases st <;> rfl

theorem update_ends (h : s.state = .running) (hu : u.verdict? = some st) :
    (s.update u).state = st ∧ (s.update u).finishedAt = some u.now := by
  have hopen := (isComplete_eq_false_iff s).2 h
  obtain ⟨houtcome, -⟩ := Update.verdict?_eq_some_iff.1 hu
  rw [update_eq, hopen, houtcome]
  exact ⟨rfl, rfl⟩

end Step

section Run

theorem updated_cons (s : Session) (u : Update) (us : List Update) : s.updated (u :: us) = (s.update u).updated us := rfl

theorem updated_append (s : Session) (before rest : List Update) :
    s.updated (before ++ rest) = (s.updated before).updated rest := List.foldl_append

theorem updated_frame (s : Session) (us : List Update) : ∃ attempts code state finishedAt, s.updated us =
    { s with attempts := attempts, currentCode := code, state := state, finishedAt := finishedAt } := by
  induction us generalizing s with
  | nil => exact ⟨_, _, _, _, rfl⟩
  | cons u us ih =>
    obtain ⟨_, _, _, _, hus⟩ := ih (s.update u)
    rw [updated_cons, hus, update_eq]
    exact ⟨_, _, _, _, rfl⟩

theorem updated_attempts (s : Session) (us : List Update) :
    (s.updated us).attempts = s.attempts ++ us.filterMap Update.attempt? := by
  induction us generalizing s with
  | nil => exact (List.append_nil _).symm
  | cons u us ih =>
    rw [updated_cons, ih, update_attempts, List.append_assoc, List.filterMap_cons]
    cases u.attempt? <;> rfl

theorem updated_currentCode (s : Session) (us : List Update) :
    (s.updated us).currentCode = (us.filterMap Update.nextCode?).getLast?.getD s.currentCode := by
  induction us generalizing s with
  | nil => rfl
  | cons u us ih =>
    rw [updated_cons, ih, update_currentCode, List.filterMap_cons]
    cases u.nextCode? with
    | none => rfl
    | some code => rw [List.getLast?_cons, Option.getD_some, Option.getD_some]

/-- Nothing that is said of a session after its end changes how it ended. -/
theorem updated_of_complete (h : s.isComplete = true) (us : List Update) :
    (s.updated us).state = s.state ∧ (s.updated us).finishedAt = s.finishedAt := by
  induction us generalizing s with
  | nil => exact ⟨rfl, rfl⟩
  | cons u us ih =>
    obtain ⟨hstate, hfinished⟩ := update_of_complete h u
    have hcomplete : (s.update u).isComplete = true := by rwa [isComplete, hstate]
    obtain ⟨hstate', hfinished'⟩ := ih hcomplete
    exact ⟨hstate'.trans hstate, hfinished'.trans hfinished⟩

theorem updated_of_running (h : s.state = .running) (us : List Update) :
    (s.updated us).state = (us.findSome? Update.verdict?).getD .running := by
  induction us generalizing s with
  | nil => exact h
  | cons u us ih =>
    have hstate := update_of_running h u
    rw [updated_cons, List.findSome?_cons]
    cases hu : u.verdict? with
    | none =>
      rw [hu] at hstate
      exact ih hstate
    | some st =>
      rw [hu] at hstate
      have hcomplete : (s.update u).isComplete = true := by
        rw [isComplete_iff, hstate]
        exact (Update.verdict?_eq_some_iff.1 hu).2
      exact (updated_of_complete hcomplete us).1.trans hstate

theorem updated_ends (h : s.state = .running) (hbefore : ∀ v ∈ before, v.verdict? = none) (hu : u.verdict? = some st)
    (rest : List Update) : (s.updated (before ++ u :: rest)).state = st ∧
      (s.updated (before ++ u :: rest)).finishedAt = some u.now := by
  have hopen : (s.updated before).state = .running := by
    rw [updated_of_running h, List.findSome?_eq_none_iff.2 hbefore, Option.getD_none]
  obtain ⟨hstate, hfinished⟩ := update_ends hopen hu
  have hcomplete : ((s.updated before).update u).isComplete = true := by
    rw [isComplete_iff, hstate]
    exact (Update.verdict?_eq_some_iff.1 hu).2
  obtain ⟨hstate', hfinished'⟩ := updated_of_complete hcomplete rest
  rw [updated_append, updated_cons]
  exact ⟨hstate'.trans hstate, hfinished'.trans hfinished⟩

end Run

/-- What is left of updates in a session that was running and without attempts. -/
structure Recounted (s : Session) (us : List Update) : Prop where
  fixed : (s.updated us).id = s.id ∧ (s.updated us).language = s.language ∧
    (s.updated us).initialCode = s.initialCode ∧ (s.updated us).maxAttempts = s.maxAttempts ∧
    (s.updated us).startedAt = s.startedAt
  attempts : (s.updated us).attempts = us.filterMap Update.attempt?
  nextIndex : (s.updated us).nextIndex = (us.filterMap Update.attempt?).length + 1
  inWord : (UInt32.ofNat (s.updated us).attempts.length + 1).toNat = (s.updated us).nextIndex
  currentCode : (s.updated us).currentCode = (us.filterMap Update.nextCode?).getLast?.getD s.initialCode
  state : (s.updated us).state = (us.findSome? Update.verdict?).getD .running
  ended : ∀ before u rest st, us = before ++ u :: rest → (∀ v ∈ before, v.verdict? = none) → u.verdict? = some st →
    (s.updated us).state = st ∧ (s.updated us).finishedAt = some u.now
  settled : ∀ before rest, us = before ++ rest → (s.updated before).state ≠ .running →
    (s.updated us).state = (s.updated before).state ∧ (s.updated us).finishedAt = (s.updated before).finishedAt

/-- However often attempts and outcomes are recorded in a new session, its log is what was recorded, its code the last
that was given, and its state and end those of the first outcome that ends it. -/
theorem updates_recounted (id : String) (language : Language) (code : String) (max : Nat) (started : Time.Stamp)
    (us : List Update) (h : us.length < UInt32.size - 1) : (start id language code max started).Recounted us := by
  have hopen : (start id language code max started).state = .running := rfl
  have hattempts : ((start id language code max started).updated us).attempts = us.filterMap Update.attempt? :=
    updated_attempts _ us
  have hlength : (us.filterMap Update.attempt?).length < UInt32.size - 1 :=
    Nat.lt_of_le_of_lt (List.length_filterMap_le _ us) h
  refine ⟨?_, hattempts, ?_, ?_, updated_currentCode _ us, updated_of_running hopen us, ?_, ?_⟩
  · obtain ⟨_, _, _, _, hframe⟩ := updated_frame (start id language code max started) us
    rw [hframe]
    exact ⟨rfl, rfl, rfl, rfl, rfl⟩
  · rw [nextIndex, hattempts]
  · have hword : (UInt32.ofNat (us.filterMap Update.attempt?).length).toNat = (us.filterMap Update.attempt?).length :=
      UInt32.toNat_ofNat_of_lt' (Nat.lt_of_lt_of_le hlength (Nat.sub_le _ 1))
    rw [nextIndex, hattempts, UInt32.toNat_add, hword]
    exact Nat.mod_eq_of_lt (Nat.add_lt_of_lt_sub hlength)
  · rintro before u rest st rfl hbefore hu
    exact updated_ends hopen hbefore hu rest
  · rintro before rest rfl hended
    rw [updated_append]
    exact updated_of_complete ((isComplete_iff _).2 hended) rest

/-- Attempts before and after the end of a session, an outcome that does not end it, and outcomes that come too late. -/
def straggling : List Update :=
  [.finish .running ⟨1, 0⟩, .record { (default : Attempt) with index := 1 } (some "v2") none ⟨2, 0⟩,
    .record { (default : Attempt) with index := 2 } none (some .succeeded) ⟨3, 0⟩, .finish .cancelled ⟨4, 0⟩,
    .record { (default : Attempt) with index := 9 } (some "v3") (some .running) ⟨5, 0⟩]

theorem updates_recounted_straggling :
    straggling.length < UInt32.size - 1 ∧
    ((start "retry_a" .python "v1" 3 ⟨0, 0⟩).updated straggling).attempts.map (·.index) = [1, 2, 9] ∧
    ((start "retry_a" .python "v1" 3 ⟨0, 0⟩).updated straggling).nextIndex = 4 ∧
    ((start "retry_a" .python "v1" 3 ⟨0, 0⟩).updated straggling).currentCode = "v3" ∧
    ((start "retry_a" .python "v1" 3 ⟨0, 0⟩).updated straggling).state = .succeeded ∧
    ((start "retry_a" .python "v1" 3 ⟨0, 0⟩).updated straggling).finishedAt = some ⟨3, 0⟩ := by
  have hfew : straggling.length < UInt32.size - 1 := by decide
  have h := updates_recounted "retry_a" .python "v1" 3 ⟨0, 0⟩ straggling hfew
  refine ⟨hfew, ?_, h.nextIndex, h.currentCode, ?_⟩
  · rw [h.attempts]
    rfl
  · exact h.ended (straggling.take 2) _ (straggling.drop 3) _ rfl (by decide) rfl

end CodeRepair.Session
