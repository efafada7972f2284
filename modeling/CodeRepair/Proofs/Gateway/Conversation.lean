import CodeRepair.Proofs.Gateway.Routing
import CodeRepair.Proofs.Service.Serving

/-!
What clients see of a paced session while a gateway answers one request after the other, whatever its runs and its
providers come to. From its creation to its deletion the session only moves forward, and it never comes back.
-/
namespace CodeRepair

namespace Session

variable {x y z : Session}

/-- One record of a session is followed by another: nothing is taken back, and what is over stays as it is. -/
structure LeadsTo (x y : Session) : Prop where
  id : y.id = x.id
  language : y.language = x.language
  initialCode : y.initialCode = x.initialCode
  maxAttempts : y.maxAttempts = x.maxAttempts
  attempts : x.attempts <+: y.attempts
  ended : x.state ≠ .running → y = x

theorem LeadsTo.refl (x : Session) : x.LeadsTo x := ⟨rfl, rfl, rfl, rfl, List.prefix_refl _, fun _ ↦ rfl⟩

theorem LeadsTo.trans (hxy : x.LeadsTo y) (hyz : y.LeadsTo z) : x.LeadsTo z where
  id := hyz.id.trans hxy.id
  language := hyz.language.trans hxy.language
  initialCode := hyz.initialCode.trans hxy.initialCode
  maxAttempts := hyz.maxAttempts.trans hxy.maxAttempts
  attempts := hxy.attempts.trans hyz.attempts
  ended hx := by
    have hy := hxy.ended hx
    subst hy
    exact hyz.ended hx

end Session

namespace Gateway

open Machine (Held Gone known)

/-- An endless series of requests to a new gateway, each answered before the next one comes. -/
structure Conversation (σ : Type) where
  service : Service
  around : Surroundings (StateM σ)
  outset : σ
  requests : Nat → Http.Request

namespace Conversation

variable {σ : Type} {c : Conversation σ} {n opened place : Nat} {id : String} {x : Session}

def settings (c : Conversation σ) : Settings := c.service.settings

def before (c : Conversation σ) : Nat → Server × σ
  | 0 => (.start c.service, c.outset)
  | n + 1 =>
    let (server, e) := c.before n
    let ((_, server), e) := (server.answer c.around (c.requests n)).run e
    (server, e)

def response (c : Conversation σ) (n : Nat) : Http.Response :=
  let (server, e) := c.before n
  ((server.answer c.around (c.requests n)).run e).1.1

def sent (c : Conversation σ) (n : Nat) (response : Http.Response) : Http.Response :=
  send c.settings (c.requests n) response

def machine (c : Conversation σ) (n : Nat) : Machine := (c.before n).1.machine

def idMade? (c : Conversation σ) (n : Nat) : Option String :=
  let (server, e) := c.before n
  match receive c.settings server.machine.registry server.received (c.requests n) with
  | .respond _ => none
  | .ask request _ => c.settings.drawn? (.arrive request (c.around.bits.run e).1)

def NoIdTwice (c : Conversation σ) : Prop := ∀ i j id, c.idMade? i = some id → c.idMade? j = some id → i = j

end Conversation

section Answering

variable {σ : Type} {around : Surroundings (StateM σ)} {server : Server} {r : Http.Request} {request : Request}
  {created : Bool} {bits : Nat} {e e₁ e₂ : σ} {response : Http.Response} {found : Option Answer} {m : Machine}

def replyTo (created : Bool) (found : Option Answer) : Http.Response :=
  match found with
  | some answer => reply created answer
  | none => respondEmpty 500

theorem Server.answer_of_respond
    (hr : receive server.service.settings server.machine.registry server.received r = .respond response) (e : σ) :
    (server.answer around r).run e =
      ((send server.service.settings r response, { server with received := server.received + 1 }), e) := by
  simp only [Server.answer, Server.respond, hr]
  rfl

theorem Server.answer_of_ask
    (hr : receive server.service.settings server.machine.registry server.received r = .ask request created)
    (hb : around.bits.run e = (bits, e₁))
    (hs : ((server.service.outside around).serve server.service.settings server.machine request bits).run e₁ =
      ((found, m), e₂)) :
    (server.answer around r).run e =
      ((send server.service.settings r (replyTo created found),
        { server with machine := m, received := server.received + 1 }), e₂) := by
  simp only [Server.answer, Server.respond, hr, Machine.run_bind, hb, hs]
  cases found <;> rfl

end Answering

namespace Conversation

variable {σ : Type} {c : Conversation σ} {n opened place : Nat} {id : String} {x : Session} {request : Request}
  {response : Http.Response}

theorem before_succ (c : Conversation σ) (n : Nat) : c.before (n + 1) =
    ((((c.before n).1.answer c.around (c.requests n)).run (c.before n).2).1.2,
      (((c.before n).1.answer c.around (c.requests n)).run (c.before n).2).2) := rfl

theorem service_before (c : Conversation σ) (n : Nat) : (c.before n).1.service = c.service := by
  induction n with
  | zero => rfl
  | succ n ih =>
    rw [← ih, before_succ]
    rfl

def received (c : Conversation σ) (n : Nat) : Step :=
  receive c.settings (c.machine n).registry (c.before n).1.received (c.requests n)

theorem of_respond (hr : c.received n = .respond response) :
    c.response n = c.sent n response ∧ c.machine (n + 1) = c.machine n ∧ c.idMade? n = none := by
  have hanswer : ((c.before n).1.answer c.around (c.requests n)).run (c.before n).2 =
      ((c.sent n response, { (c.before n).1 with received := (c.before n).1.received + 1 }), (c.before n).2) := by
    have hservice := c.service_before n
    rw [received, settings, ← hservice] at hr
    rw [Server.answer_of_respond hr, sent, settings, ← hservice]
  refine ⟨?_, ?_, ?_⟩
  · exact congrArg (·.1.1) hanswer
  · exact congrArg (·.1.2.machine) hanswer
  · rw [received, machine] at hr
    simp only [idMade?, hr]

theorem of_ask {created : Bool} (hr : c.received n = .ask request created) :
    ∃ bits e, c.idMade? n = c.settings.drawn? (.arrive request bits) ∧
      c.response n = c.sent n (replyTo created
        (((c.service.outside c.around).serve c.settings (c.machine n) request bits).run e).1.1) ∧
      c.machine (n + 1) =
        (((c.service.outside c.around).serve c.settings (c.machine n) request bits).run e).1.2 := by
  rcases hb : c.around.bits.run (c.before n).2 with ⟨bits, e⟩
  rcases hs : ((c.service.outside c.around).serve c.settings (c.machine n) request bits).run e
    with ⟨⟨found, m⟩, e'⟩
  have hanswer : ((c.before n).1.answer c.around (c.requests n)).run (c.before n).2 =
      ((c.sent n (replyTo created found),
        { (c.before n).1 with machine := m, received := (c.before n).1.received + 1 }), e') := by
    have hservice := c.service_before n
    rw [received, settings, ← hservice] at hr
    rw [settings, ← hservice] at hs
    rw [Server.answer_of_ask hr hb hs, sent, settings, ← hservice]
  refine ⟨bits, e, ?_, ?_, ?_⟩
  · rw [received, machine] at hr
    simp only [idMade?, hr, hb]
  · rw [hs]
    exact congrArg (·.1.1) hanswer
  · rw [hs]
    exact congrArg (·.1.2.machine) hanswer

/-- While no id is made twice, the sessions known so far are those whose ids were made before. -/
structure Orderly (c : Conversation σ) (n : Nat) : Prop where
  kept : (c.machine n).Kept c.settings
  nodup : (known (c.machine n).registry).Nodup
  made : ∀ id ∈ known (c.machine n).registry, ∃ i < n, c.idMade? i = some id

theorem Orderly.fresh (hn : c.Orderly n) (hids : c.NoIdTwice)
    (hid : c.idMade? n = some id) : id ∉ known (c.machine n).registry := fun hmem ↦ by
  obtain ⟨i, hi, hmade⟩ := hn.made id hmem
  have := hids i n id hmade hid
  omega

theorem Orderly.succ (hn : c.Orderly n)
    (hids : c.NoIdTwice) : c.Orderly (n + 1) := by
  cases hr : c.received n with
  | respond response =>
    obtain ⟨-, hm, -⟩ := of_respond hr
    refine ⟨hm ▸ hn.kept, hm ▸ hn.nodup, fun id hid ↦ ?_⟩
    rw [hm] at hid
    obtain ⟨i, hi, hmade⟩ := hn.made id hid
    exact ⟨i, by omega, hmade⟩
  | ask request created =>
    obtain ⟨bits, e, hmade, -, hm⟩ := of_ask hr
    have hknown := Machine.known_served (c.service.outside c.around) c.settings (c.machine n) request bits e
    rw [← hm, ← hmade] at hknown
    refine ⟨?_, Machine.nodup_of_added hknown hn.nodup fun id ↦ hn.fresh hids, fun id hid ↦ ?_⟩
    · rw [hm]
      exact hn.kept.served _ _ _ _
    · rcases hknown with hsame | ⟨id', hid', hadd⟩
      · obtain ⟨i, hi, hmade⟩ := hn.made id (hsame ▸ hid)
        exact ⟨i, by omega, hmade⟩
      · rw [hadd, List.mem_append, List.mem_singleton] at hid
        rcases hid with hid | rfl
        · obtain ⟨i, hi, hmade⟩ := hn.made id hid
          exact ⟨i, by omega, hmade⟩
        · exact ⟨n, by omega, hid'⟩

section Held

theorem Orderly.created (hn : c.Orderly n) (hcreated : (c.response n).status = 201) :
    ∃ id place language code max now, let x := Session.start id language code max now
      c.response n = c.sent n (respond 201 (x.summary now)) ∧ (c.machine (n + 1)).Held place x := by
  cases hr : c.received n with
  | respond response =>
    rw [(of_respond hr).1, sent, send_status] at hcreated
    exact absurd hcreated (receive_status_ne hr)
  | ask request created =>
    obtain ⟨bits, e, -, hresponse, hm⟩ := of_ask hr
    rw [hresponse, sent, send_status] at hcreated
    cases hfound : (((c.service.outside c.around).serve c.settings (c.machine n) request bits).run e).1.1 with
    | none =>
      rw [hfound] at hcreated
      cases hcreated
    | some answer =>
      rw [hfound] at hcreated
      obtain ⟨rfl, sum, hsum⟩ := reply_created hcreated
      cases asks_of_receive hr with
      | create language code asked =>
        rcases hn.kept.serve_start (c.service.outside c.around) language code asked bits e with
          ⟨refusal, m', e', hserved⟩ | ⟨id, place, language', max, now, m', e', hserved, hheld⟩
        · rw [hserved] at hfound
          rw [hsum] at hfound
          cases hfound
        · rw [hserved] at hresponse hm
          exact ⟨id, place, language', code, max, now, hresponse, hm ▸ hheld⟩

variable (hn : c.Orderly n) (hheld : (c.machine n).Held place x)
include hn hheld

end Held

section Gone

end Gone

section History

variable (hids : c.NoIdTwice)
include hids

end History

end Conversation

end Gateway

end CodeRepair
