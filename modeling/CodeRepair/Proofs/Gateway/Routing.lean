import CodeRepair.Gateway.Server
import CodeRepair.Proofs.Session.Key
import CodeRepair.Proofs.Session.Registry
import CodeRepair.Proofs.Text.Pieces

/-!
Which requests over the wire are for one session: those that read it, delete it or ask for its next attempt, under any
spelling of its id. What they ask of the service, and which status its answers go back with.
-/
namespace CodeRepair.Gateway

variable {s : Settings} {registry : Registry} {caller : Nat} {r : Http.Request} {request : Request} {created : Bool}
  {response : Http.Response} {segment : List Char} {id text : String} {answer : Answer}

/-- A segment of a path that spells an id. -/
def Spells (segment : List Char) (id : String) : Prop :=
  ∃ text, readId segment = .ok text ∧ SessionKey.normalize text = .ok id

/-- The path of a target, without a query. -/
def pathOf (target : String) : List Char := target.toList.takeWhile fun c ↦ c ≠ '?' ∧ c ≠ '#'

/-- The path is that of a session, under some spelling of its id, with some more text after it. -/
def Names (r : Http.Request) (id more : String) : Prop :=
  ∃ segment, '/' ∉ segment ∧ pathOf r.target = "/api/sessions/".toList ++ segment ++ more.toList ∧ Spells segment id

def Reads (r : Http.Request) (id : String) : Prop := (r.method = "GET" ∨ r.method = "HEAD") ∧ Names r id ""

def Deletes (r : Http.Request) (id : String) : Prop := r.method = "DELETE" ∧ Names r id ""

def Steps (r : Http.Request) (id : String) : Prop := r.method = "POST" ∧ Names r id "/attempts"

/-- A request for one session. -/
def Addresses (r : Http.Request) (id : String) : Prop := Reads r id ∨ Deletes r id ∨ Steps r id

section Paths

variable {target : String} {segments : List (List Char)} {endpoint : Endpoint}

theorem ofSegments_session_iff : Endpoint.ofSegments segments = some (.session segment) ↔
    segments = ["api".toList, "sessions".toList, segment] ∧ segment ≠ [] := by
  constructor
  · intro h
    unfold Endpoint.ofSegments at h
    split at h
    · split_ifs at h <;> cases h
    · split_ifs at h <;> cases h
    · split_ifs at h with hroute
      cases h
      obtain ⟨rfl, rfl, hid⟩ := hroute
      exact ⟨rfl, by simpa using hid⟩
    · split_ifs at h
      cases h
    · cases h
  · rintro ⟨rfl, hne⟩
    simp [Endpoint.ofSegments, hne]

theorem ofSegments_attempts_iff : Endpoint.ofSegments segments = some (.attempts segment) ↔
    segments = ["api".toList, "sessions".toList, segment, "attempts".toList] ∧ segment ≠ [] := by
  constructor
  · intro h
    unfold Endpoint.ofSegments at h
    split at h
    · split_ifs at h <;> cases h
    · split_ifs at h <;> cases h
    · split_ifs at h
      cases h
    · split_ifs at h with hroute
      cases h
      obtain ⟨rfl, rfl, hid, rfl⟩ := hroute
      exact ⟨rfl, by simpa using hid⟩
    · cases h
  · rintro ⟨rfl, hne⟩
    simp [Endpoint.ofSegments, hne]

theorem ofTarget_iff {pieces : List (List Char)} {valid : Prop} (hne : pieces ≠ [])
    (hroute : ∀ segments, Endpoint.ofSegments segments = some endpoint ↔ segments = pieces ∧ valid) :
    Endpoint.ofTarget target = some endpoint ↔
      valid ∧ (∀ piece ∈ pieces, '/' ∉ piece) ∧ pathOf target = '/' :: ['/'].intercalate pieces := by
  have hpath : Endpoint.ofTarget target = some endpoint ↔
      ∃ path, pathOf target = '/' :: path ∧ Endpoint.ofSegments (Text.splitAt (· = '/') path) = some endpoint := by
    rw [Endpoint.ofTarget, ← pathOf]
    split
    next path hpath => simp [hpath]
    next hpath => simpa using fun path he ↦ absurd he (hpath path)
  simp only [hpath, hroute, Text.splitAt_eq_iff]
  constructor
  · rintro ⟨path, hpath, ⟨-, hfree, rfl⟩, hvalid⟩
    exact ⟨hvalid, hfree, hpath⟩
  · rintro ⟨hvalid, hfree, hpath⟩
    exact ⟨_, hpath, ⟨hne, hfree, rfl⟩, hvalid⟩

theorem ofTarget_session_iff : Endpoint.ofTarget target = some (.session segment) ↔
    segment ≠ [] ∧ '/' ∉ segment ∧ pathOf target = "/api/sessions/".toList ++ segment := by
  rw [ofTarget_iff (List.cons_ne_nil _ _) fun _ ↦ ofSegments_session_iff]
  simp [List.intercalate]

theorem ofTarget_attempts_iff : Endpoint.ofTarget target = some (.attempts segment) ↔
    segment ≠ [] ∧ '/' ∉ segment ∧ pathOf target = "/api/sessions/".toList ++ segment ++ "/attempts".toList := by
  rw [ofTarget_iff (List.cons_ne_nil _ _) fun _ ↦ ofSegments_attempts_iff]
  simp [List.intercalate]

theorem Spells.ne_nil (h : Spells segment id) : segment ≠ [] := by
  rintro rfl
  obtain ⟨text, hid, hn⟩ := h
  cases hid
  cases hn

theorem names_iff {more : String} {endpoint : List Char → Endpoint}
    (hroute : ∀ segment, Endpoint.ofTarget r.target = some (endpoint segment) ↔ segment ≠ [] ∧ '/' ∉ segment ∧
      pathOf r.target = "/api/sessions/".toList ++ segment ++ more.toList) :
    Names r id more ↔ ∃ segment, Endpoint.ofTarget r.target = some (endpoint segment) ∧ Spells segment id := by
  simp only [Names, hroute]
  constructor
  · rintro ⟨segment, hfree, hpath, hspells⟩
    exact ⟨segment, ⟨hspells.ne_nil, hfree, hpath⟩, hspells⟩
  · rintro ⟨segment, ⟨-, hfree, hpath⟩, hspells⟩
    exact ⟨segment, hfree, hpath, hspells⟩

theorem names_session_iff : Names r id "" ↔
    ∃ segment, Endpoint.ofTarget r.target = some (.session segment) ∧ Spells segment id :=
  names_iff fun segment ↦ by simp [ofTarget_session_iff]

theorem names_attempts_iff : Names r id "/attempts" ↔
    ∃ segment, Endpoint.ofTarget r.target = some (.attempts segment) ∧ Spells segment id :=
  names_iff fun _ ↦ ofTarget_attempts_iff

end Paths

section Asked

/-- What a request asks of the service, as far as it is about one session or creates one. -/
inductive Asks (r : Http.Request) : Request → Bool → Prop
  | get {segment : List Char} {text : String} : Endpoint.ofTarget r.target = some (.session segment) →
      readId segment = .ok text → Asks r (.get text) false
  | delete {segment : List Char} {text : String} : r.method = "DELETE" →
      Endpoint.ofTarget r.target = some (.session segment) → readId segment = .ok text → Asks r (.delete text) false
  | step {segment : List Char} {text : String} : r.method = "POST" →
      Endpoint.ofTarget r.target = some (.attempts segment) → readId segment = .ok text → Asks r (.step text) false
  | create (language code : String) (max : Option Nat) : Asks r (.start language code max) true
  | execute (language code : String) : Asks r (.execute language code) false
  | debug (language code : String) : Asks r (.debug language code) false
  | run (language code : String) (max caller : Option Nat) : Asks r (.run language code max caller) false
  | list : Asks r .list false

theorem asks_of_step {endpoint : Endpoint} (ht : Endpoint.ofTarget r.target = some endpoint)
    (hm : endpoint.methods.contains r.method = true)
    (h : endpoint.step s registry caller r = .ok (.ask request created)) : Asks r request created := by
  cases endpoint with
  | root | health => cases h
  | execute =>
    obtain ⟨body, -, he⟩ := Registry.bind_eq_ok h
    cases he
    exact .execute ..
  | debug =>
    obtain ⟨body, -, he⟩ := Registry.bind_eq_ok h
    cases he
    exact .debug ..
  | autoRetry =>
    obtain ⟨body, -, he⟩ := Registry.bind_eq_ok h
    cases he
    exact .run ..
  | sessions =>
    rw [Endpoint.step] at h
    split at h
    · obtain ⟨body, -, he⟩ := Registry.bind_eq_ok h
      cases he
      exact .create ..
    · cases h
      exact .list
  | session segment =>
    obtain ⟨text, hid, he⟩ := Registry.bind_eq_ok h
    by_cases hdelete : r.method = "DELETE"
    · rw [if_pos hdelete] at he
      cases he
      exact .delete hdelete ht hid
    · rw [if_neg hdelete] at he
      cases he
      exact .get ht hid
  | attempts segment =>
    obtain ⟨text, hid, he⟩ := Registry.bind_eq_ok h
    cases he
    exact .step (by simpa [Endpoint.methods] using hm) ht hid

theorem asks_of_receive (h : receive s registry caller r = .ask request created) : Asks r request created := by
  unfold receive at h
  split at h
  · cases h
  next endpoint ht =>
    split at h
    next hm =>
      split at h
      next step hstep =>
        subst h
        exact asks_of_step ht hm hstep
      · cases h
    · cases h

theorem receive_of_step {endpoint : Endpoint} {step : Step} (ht : Endpoint.ofTarget r.target = some endpoint)
    (hm : endpoint.methods.contains r.method = true) (h : endpoint.step s registry caller r = .ok step) :
    receive s registry caller r = step := by
  simp only [receive, ht, hm, if_true, h]

theorem Reads.receive (hr : Reads r id) (s : Settings) (registry : Registry) (caller : Nat) :
    ∃ text, Gateway.receive s registry caller r = .ask (.get text) false ∧ SessionKey.normalize text = .ok id := by
  obtain ⟨hm, hnames⟩ := hr
  obtain ⟨segment, ht, text, hid, hn⟩ := names_session_iff.1 hnames
  refine ⟨text, receive_of_step ht ?_ ?_, hn⟩
  · rcases hm with hm | hm <;> simp [Endpoint.methods, hm]
  · have hne : r.method ≠ "DELETE" := by rcases hm with hm | hm <;> simp [hm]
    simp only [Endpoint.step, hid, bind, Except.bind, if_neg hne]
    rfl

theorem Deletes.receive (hr : Deletes r id) (s : Settings) (registry : Registry) (caller : Nat) :
    ∃ text, Gateway.receive s registry caller r = .ask (.delete text) false ∧
      SessionKey.normalize text = .ok id := by
  obtain ⟨hm, hnames⟩ := hr
  obtain ⟨segment, ht, text, hid, hn⟩ := names_session_iff.1 hnames
  refine ⟨text, receive_of_step ht (by simp [Endpoint.methods, hm]) ?_, hn⟩
  simp only [Endpoint.step, hid, bind, Except.bind, if_pos hm]
  rfl

theorem Steps.receive (hr : Steps r id) (s : Settings) (registry : Registry) (caller : Nat) :
    ∃ text, Gateway.receive s registry caller r = .ask (.step text) false ∧ SessionKey.normalize text = .ok id := by
  obtain ⟨hm, hnames⟩ := hr
  obtain ⟨segment, ht, text, hid, hn⟩ := names_attempts_iff.1 hnames
  refine ⟨text, receive_of_step ht (by simp [Endpoint.methods, hm]) ?_, hn⟩
  simp only [Endpoint.step, hid, bind, Except.bind]
  rfl

theorem Addresses.receive (hr : Addresses r id) (s : Settings) (registry : Registry) (caller : Nat) :
    ∃ request text, Gateway.receive s registry caller r = .ask request false ∧
      SessionKey.normalize text = .ok id ∧ (request = .get text ∨ request = .delete text ∨ request = .step text) := by
  rcases hr with hr | hr | hr
  · obtain ⟨text, hask, hn⟩ := hr.receive s registry caller
    exact ⟨_, text, hask, hn, .inl rfl⟩
  · obtain ⟨text, hask, hn⟩ := hr.receive s registry caller
    exact ⟨_, text, hask, hn, .inr (.inl rfl)⟩
  · obtain ⟨text, hask, hn⟩ := hr.receive s registry caller
    exact ⟨_, text, hask, hn, .inr (.inr rfl)⟩

end Asked

section Statuses

theorem mark_status (cors : Cors) (r : Http.Request) (response : Http.Response) :
    (cors.mark r response).status = response.status := by
  unfold Cors.mark
  split <;> rfl

theorem send_status (s : Settings) (r : Http.Request) (response : Http.Response) :
    (send s r response).status = response.status := by
  have hmarked (cors : Cors) : (if cors.intercepts r then response else cors.mark r response).status =
      response.status := by
    split
    · rfl
    · exact mark_status cors r response
  simp only [send]
  split
  · exact hmarked _
  · exact hmarked _

theorem ofSession_status_ne (e : SessionError) : (ApiError.ofSession e).status ≠ 201 := by
  cases e <;> simp [ApiError.ofSession, ApiError.ofRequest]

theorem reply_created (h : (reply created answer).status = 201) :
    created = true ∧ ∃ sum, answer = .ok (.summary sum) := by
  cases answer with
  | error e => exact absurd h (ofSession_status_ne e)
  | ok payload =>
    cases payload with
    | summary sum =>
      cases created with
      | true => exact ⟨rfl, sum, rfl⟩
      | false => cases h
    | _ => cases h

theorem refuseBody_status_ne (fault : Json.Fault) : (refuseBody fault).status ≠ 201 := by
  simp only [refuseBody]
  split <;> simp [respondText]

theorem readBody_status_ne {α : Type} [Schema.HasShape α] (h : readBody α r = .error response) :
    response.status ≠ 201 := by
  unfold readBody at h
  split at h
  · cases h
    simp [respondText]
  · split at h
    · cases h
      simp [respondText]
    · cases hp : Schema.parse α r.body with
      | ok a => rw [hp] at h; cases h
      | error fault =>
        rw [hp] at h; cases h
        exact refuseBody_status_ne fault

theorem readId_status_ne (h : readId segment = .error response) : response.status ≠ 201 := by
  simp only [readId] at h
  split at h
  · cases h
  · cases h
    simp [respondText]

theorem asked_status_ne {α : Type} {x : Except Http.Response α} {ask : α → Step}
    (hx : ∀ response, x = .error response → response.status ≠ 201) (hask : ∀ a, ask a ≠ .respond response)
    (h : (do return ask (← x)) = Except.ok (Step.respond response) ∨ (do return ask (← x)) = Except.error response) :
    response.status ≠ 201 := by
  cases x with
  | error response' =>
    rcases h with h | h <;> cases h
    exact hx response rfl
  | ok a =>
    rcases h with h | h
    · exact absurd (Except.ok.inj h) (hask a)
    · cases h

/-- What is answered before the service is asked is no creation. -/
theorem step_status_ne {endpoint : Endpoint}
    (h : endpoint.step s registry caller r = .ok (.respond response) ∨
      endpoint.step s registry caller r = .error response) : response.status ≠ 201 := by
  cases endpoint with
  | root | health =>
    rcases h with h | h <;> cases h
    simp [respond]
  | execute | debug | autoRetry => exact asked_status_ne (fun _ ↦ readBody_status_ne) (by simp) h
  | sessions =>
    rw [Endpoint.step] at h
    split at h
    · exact asked_status_ne (fun _ ↦ readBody_status_ne) (by simp) h
    · rcases h with h | h <;> cases h
  | session | attempts => exact asked_status_ne (fun _ ↦ readId_status_ne) (by simp) h

theorem receive_status_ne (h : receive s registry caller r = .respond response) : response.status ≠ 201 := by
  have unrouted (cors : Cors) {status : Nat} (hs : status ≠ 201) :
      (if cors.intercepts r then cors.preflight r else respondEmpty status).status ≠ 201 := by
    split
    · simp [Cors.preflight]
    · exact hs
  unfold receive at h
  dsimp only at h
  split at h
  · cases h
    exact unrouted _ (by decide)
  · split at h
    · split at h
      next hstep => exact step_status_ne (.inl (h ▸ hstep))
      next hstep =>
        cases h
        exact step_status_ne (.inr hstep)
    · cases h
      exact unrouted _ (by decide)

end Statuses

end CodeRepair.Gateway
