import PubSub.Proofs.Connection.Closed
import PubSub.Proofs.Inbox.Ownership
import PubSub.Proofs.Registry.Keys

/-!
# Replies find their requests

The keys of the requests of a connection are the reply subjects that its inbox handed out, in order,
and no two of those are equal. So a message on a reply subject reaches the one request that it
answers, or none, and never a subscription; any other message never reaches a request.

## Main results

- `Connection.Flow.numbered` — whatever becomes of a connection, its keys are numbered
-/

namespace PubSub

namespace Connection

/-- The keys of all requests are the reply subjects handed out, in order. -/
def Numbered (c : Connection) : Prop :=
  c.registry.keys = (List.range' 1 c.inbox.issued).map c.inbox.subject

variable {exposed : Sid → Prop} {c c' : Connection}

theorem keys_stepSweeper (c : Connection) : c.stepSweeper.registry.keys = c.registry.keys := by
  rcases (c.sweeper.step_keeps c.registry c.clock).2 with heq | heq | heq
  · exact congrArg Registry.keys heq
  · exact (congrArg Registry.keys heq).trans
      (c.registry.keys_perform (.sweepExpired c.clock) (by simp))
  · exact (congrArg Registry.keys heq).trans rfl

theorem Numbered.enrolled (h : c.Numbered) (options : RequestOptions) :
    (c.enrolled options).Numbered := by
  show (c.registry.register c.inbox.next.1 options c.config.requestTimeout c.clock).2.keys =
    (List.range' 1 (c.inbox.issued + 1)).map c.inbox.subject
  rw [Registry.keys_register, h, List.range'_1_concat, List.map_append, Nat.add_comm]
  rfl

/-- Nothing but a request makes keys, and it takes the next reply subject. -/
theorem Flow.numbered (h : c.Flow exposed c') (hc : c.Numbered) : c'.Numbered := by
  induction h with
  | trans _ _ ih ih' => exact ih' (ih hc)
  | consult c op hop => exact (c.registry.keys_perform op hop).trans hc
  | sweep c => exact c.keys_stepSweeper.trans hc
  | enrol c options _ => exact hc.enrolled options
  | forgo c options _ =>
    exact ((c.enrolled options).registry.keys_perform (.abandon c.inbox.next.1) (by simp)).trans
      (hc.enrolled options)
  | @close c _ _ _ _ ih => exact ih ((c.registry.keys_perform .cancelAll (by simp)).trans hc)
  | _ => exact hc

namespace Numbered

theorem nodup (h : c.Numbered) : c.registry.keys.Nodup := by
  rw [h]
  exact (List.nodup_map_iff c.inbox.subject_injective).2 List.nodup_range'

theorem length_requests (h : c.Numbered) : c.registry.requests.length = c.inbox.issued := by
  rw [← Registry.length_keys, h, List.length_map, List.length_range']

/-- Every key is a reply subject of the connection. -/
theorem owns (h : c.Numbered) {key : String} (hkey : key ∈ c.registry.keys) :
    c.inbox.owns key = true := by
  rw [h] at hkey
  obtain ⟨n, -, rfl⟩ := List.mem_map.1 hkey
  exact c.inbox.owns_subject n

/-- The next reply subject is no key yet. -/
theorem next_not_mem (h : c.Numbered) : c.inbox.next.1 ∉ c.registry.keys := by
  rw [h]
  intro hmem
  obtain ⟨n, hn, heq⟩ := List.mem_map.1 hmem
  obtain rfl := c.inbox.subject_injective heq
  have hlt := (List.mem_range'_1.1 hn).2
  omega

end Numbered

/-- A message that is delivered by number reaches no request. -/
theorem registry_deliver (c : Connection) (sid : Sid) (m : Message) :
    (c.deliver sid m).2.registry = c.registry := by
  unfold deliver deliverTo
  split
  · split
    · rfl
    · split <;> rfl
  · rfl

/-- Along every run: no two requests ever made have the same key, and each key is a reply subject of
the connection. When the next request is about to be registered, no request has its key, so it is
added and everything in the registry stays. A message whose subject is the key of a pending request
is accepted and resolves that request, by the message itself or, when it is the signal that nobody
listens, as not answered; beyond this only the key stops waiting and the metrics change, whichever
subscription the message names. A message on any other reply subject of the connection is refused and
changes nothing. A message on any other subject is delivered by number, and the registry stays as it
is. -/
theorem replies_correlate (o : Session.Opening) (id : Nat) (clock : Instant) (handle : Nat)
    (moves : List Move) :
    let c := (o.connect id clock handle).run moves
    (c.registry.requests.map (·.key)).Nodup ∧
    (∀ r ∈ c.registry.requests, c.inbox.owns r.key = true) ∧
    (∀ options : RequestOptions,
      let c₁ := (c.announceInbox transport).2
      let key := c₁.inbox.next.1
      (∀ r ∈ c₁.registry.requests, r.key ≠ key) ∧
      c₁.registry.register key options c₁.config.requestTimeout c₁.clock =
        (c₁.registry.requests.length, { c₁.registry with
          requests := c₁.registry.requests ++
            [Request.create key options c₁.config.requestTimeout c₁.clock]
          entries := c₁.registry.entries ++ [(key, c₁.registry.requests.length)]
          counts := c₁.registry.counts.entered
          signalled := true })) ∧
    (∀ (m : Message) (i : Nat) (r : Request), c.registry.request? i = some r →
      r.key = m.subject → r.state = none →
      let outcome : Outcome := if m.status = some 503 ∧ m.payload.size = 0
        then .cancelled .noResponders else .fulfilled m
      c.processInbound m = (true, { c with registry := { c.registry with
        requests := c.registry.requests.set i
          { r with state := some outcome.resolution, slot := .filled outcome }
        entries := c.registry.entries.filter (·.1 != m.subject)
        counts := c.registry.counts.left.resolved outcome.resolution } })) ∧
    (∀ m : Message, c.inbox.owns m.subject = true →
      (∀ r ∈ c.registry.requests, r.key = m.subject → r.state ≠ none) →
      c.processInbound m = (false, c)) ∧
    ∀ m : Message, c.inbox.owns m.subject = false →
      c.processInbound m = c.deliver m.sid m ∧ (c.deliver m.sid m).2.registry = c.registry := by
  intro c
  have hflow : (o.connect id clock handle).Flow (fun _ => True) c := flow_run _ moves
  have hc : c.Numbered := hflow.numbered rfl
  have hcoherent : c.registry.Coherent := hflow.coherent Registry.coherent_empty
  have howns : ∀ r ∈ c.registry.requests, c.inbox.owns r.key = true :=
    fun r hr => hc.owns (List.mem_map_of_mem hr)
  refine ⟨hc.nodup, howns, fun options => ?_, fun m i r hr hkey hs => ?_, fun m hm hno => ?_,
    fun m hm => ⟨?_, registry_deliver c m.sid m⟩⟩
  · -- the transport may react to the announcement, so the state is the one that leaves
    intro c₁ key
    have hannounce : c.Flow (fun _ => True) c₁ :=
      (course_announceInbox (p := .all) sends_transport (suits_all c) trivial).flow
    have hfree : key ∉ c₁.registry.keys := (hannounce.numbered hc).next_not_mem
    refine ⟨fun r hr heq => hfree (heq ▸ List.mem_map_of_mem hr), ?_⟩
    exact Registry.register_of_free
      ((hannounce.coherent hcoherent).find?_of_not_mem_keys hfree) options _ _
  · intro outcome
    have houtcome : Outcome.ofReply m = outcome := by
      simp [Outcome.ofReply, Message.isNoResponders, noRespondersStatus, outcome]
    unfold processInbound
    rw [← hkey, if_pos (howns r (List.mem_of_getElem? hr)), resolveReply,
      hcoherent.resolveReply_of_pending hr hs, houtcome]
    have hset : c.registry.requests.modify i (fun _ => r.settled outcome) =
        c.registry.requests.set i (r.settled outcome) := by
      rw [List.modify_eq_set_getElem?]
      have hr' : c.registry.requests[i]? = some r := hr
      simp [hr']
    simp only [Registry.erase, Registry.modify, hset]
    rfl
  · unfold processInbound
    rw [if_pos hm, resolveReply, hcoherent.resolveReply_of_settled hno]
  · unfold processInbound
    rw [hm]
    rfl

/-- The theorem applies to a reply that names a live subscription: it resolves the request, and the
subscription does not see it. -/
theorem replies_correlate_live :
    let handler := Handler.mk "" [] []
    let moves : List Move := [.subscribe 1 { subject := "a", handler := some handler },
      .request "b" .empty {}]
    let c := (Session.Opening.connect { token := "" } 0 0 1).run moves
    let m : Message := { subject := c.inbox.subject 1, sid := 1 }
    (c.lookup 1).isSome = true ∧ ∃ r, c.registry.request? 0 = some r ∧ r.state = none ∧
      (c.processInbound m).1 = true ∧ (c.processInbound m).2.subscriptions = c.subscriptions ∧
      (c.processInbound m).2.registry.requests =
        c.registry.requests.set 0 { r with state := some .fulfilled, slot := .filled (.fulfilled m) } := by
  intro handler moves c m
  have hwaits : ((c.registry.request? 0).any fun r => r.key == m.subject && r.state.isNone) = true := by
    decide +kernel
  obtain ⟨r, hr, hprops⟩ := (Option.any_eq_true _ _).1 hwaits
  obtain ⟨hkey, hs⟩ := Bool.and_eq_true_iff.1 hprops
  have hs' : r.state = none := Option.isNone_iff_eq_none.1 hs
  have hreply := (replies_correlate { token := "" } 0 0 1 moves).2.2.2.1 m 0 r hr
    (beq_iff_eq.1 hkey) hs'
  have hstatus : ¬(m.status = some 503 ∧ m.payload.size = 0) := by simp [m]
  rw [if_neg hstatus] at hreply
  refine ⟨by decide +kernel, r, hr, hs', ?_⟩
  rw [hreply]
  exact ⟨rfl, rfl, rfl⟩

end Connection

end PubSub
