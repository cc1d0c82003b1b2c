import PubSub.Proofs.Connection.Work

/-!
# Subscriptions are in order

What holds of every subscription at every time, whatever was done to its connection: validity,
attachment and place in the table are one and the same; at most one worker was not told to end, and
at most one has the receiving end of the queue; the messages accepted are those taken followed by
those queued; and the story tells the handler and the number of deliveries (`Record.Orderly`).
-/

namespace PubSub

namespace Story

/-- Messages that enter the queue do not change what the story tells of anything else. -/
theorem append_accepted (sid : Sid) (ms : List Message) (l : Story) :
    accepted (ms.reverse.map (Event.accepted sid) ++ l) = accepted l ++ ms ∧
      taken (ms.reverse.map (Event.accepted sid) ++ l) = taken l ∧
      handler? (ms.reverse.map (Event.accepted sid) ++ l) = handler? l ∧
      begun (ms.reverse.map (Event.accepted sid) ++ l) = begun l ∧
      ceiling (ms.reverse.map (Event.accepted sid) ++ l) = ceiling l ∧
      dues (ms.reverse.map (Event.accepted sid) ++ l) = dues l ∧
      fates (ms.reverse.map (Event.accepted sid) ++ l) = fates l := by
  -- the newest message comes first in the story, so the induction is on the reversed list
  rw [← ms.reverse_reverse]
  generalize ms.reverse = ms'
  rw [List.reverse_reverse]
  induction ms' with
  | nil => simp
  | cons m ms' ih =>
    obtain ⟨ha, ht, hh, hb, hc, hd, hf⟩ := ih
    refine ⟨?_, ht, hh, hb, hc, hd, hf⟩
    rw [List.map_cons, List.cons_append, accepted, ha, List.reverse_cons, List.append_assoc]

end Story

/-- At most one worker has the receiving end of the queue. -/
def Subscription.OneReceiver (s : Subscription) : Prop :=
  ∀ i j p p', s.phase? i = some p → s.phase? j = some p' → p.Receives → p'.Receives → i = j

namespace Subscription

variable {s : Subscription} {i : Nat}

/-- Whoever has the receiving end afterwards had it before. -/
theorem OneReceiver.of_phase? {s' : Subscription} (h : s.OneReceiver)
    (hb : ∀ j q, s'.phase? j = some q → q.Receives → ∃ q₀, s.phase? j = some q₀ ∧ q₀.Receives) :
    s'.OneReceiver := by
  intro j k q q' hj hk hq hq'
  obtain ⟨q₀, hj₀, hq₀⟩ := hb j q hj hq
  obtain ⟨q₀', hk₀, hq₀'⟩ := hb k q' hk hq'
  exact h j k q₀ q₀' hj₀ hk₀ hq₀ hq₀'

theorem phase?_setPhase (s : Subscription) (i : Nat) (p : Worker.Phase) (j : Nat) :
    (s.setPhase i p).phase? j = if i = j then (s.phase? j).map fun _ => p else s.phase? j := by
  unfold phase? setPhase modifyWorker
  rw [List.getElem?_modify]
  split <;> cases s.workers[j]? <;> rfl

/-- Nobody else gets hold of the receiving end. -/
theorem OneReceiver.setPhase (h : s.OneReceiver) {p : Worker.Phase}
    (hp : p.Receives → ∃ p₀, s.phase? i = some p₀ ∧ p₀.Receives) :
    (s.setPhase i p).OneReceiver := by
  refine h.of_phase? fun j q hj hq => ?_
  rw [phase?_setPhase] at hj
  split at hj
  · next hij =>
    subst hij
    obtain ⟨-, -, rfl⟩ := Option.map_eq_some_iff.1 hj
    exact hp hq
  · exact ⟨q, hj, hq⟩

/-- A worker gets hold of the receiving end only when nobody has it. -/
theorem OneReceiver.lineUp (h : s.OneReceiver) (i : Nat) (w : Worker) :
    (s.setPhase i (s.lineUp i w)).OneReceiver := by
  by_cases hfree : s.receiverIsFree i = true
  · have hnone : ∀ j q, s.phase? j = some q → ¬q.Receives := by
      intro j q hj hq
      obtain ⟨w', hw', rfl⟩ := Subscription.phase?_eq_some_iff.1 hj
      have hany : s.workers.any Worker.hasReceiver = true :=
        List.any_eq_true.2 ⟨w', List.mem_of_getElem? hw', w'.hasReceiver_iff.2 hq⟩
      simp [receiverIsFree, hany] at hfree
    -- so whoever has it afterwards is the worker that lined up
    have honly : ∀ j q, (s.setPhase i (s.lineUp i w)).phase? j = some q → q.Receives → j = i := by
      intro j q hj hq
      rw [phase?_setPhase] at hj
      split at hj
      · next hij => exact hij.symm
      · exact absurd hq (hnone j q hj)
    intro j k q q' hj hk hq hq'
    rw [honly j q hj hq, honly k q' hk hq']
  · refine h.setPhase fun hr => ?_
    unfold Subscription.lineUp at hr
    rw [if_neg hfree] at hr
    split at hr <;> exact hr.elim

theorem Disciplined.setPhase (h : s.Disciplined) (i : Nat) (p : Worker.Phase) :
    (s.setPhase i p).Disciplined := by
  intro j w hj hc
  have hj' : (s.workers.modify i fun w => { w with phase := p })[j]? = some w := hj
  rw [List.getElem?_modify] at hj'
  obtain ⟨w', hw', rfl⟩ := Option.map_eq_some_iff.1 hj'
  refine h j w' hw' ?_
  split at hc <;> exact hc

theorem Disciplined.enable (h : s.Disciplined) (stopping : Bool) :
    (s.enable stopping).2.Disciplined := by
  rcases Record.workers_enable s stopping with heq | ⟨hidle, heq⟩
  · rw [heq]
    exact h
  · rw [heq]
    intro i w hw hc
    have hw' : (s.workers ++ [{ cancelled := stopping }])[i]? = some w := hw
    rw [List.getElem?_append] at hw'
    split at hw'
    · -- an older worker that was not told to end would be the one that runs
      have hcur := h i w hw' hc
      simp [isStarted, hcur, hw', hc] at hidle
    · next hge =>
      have hlt : i - s.workers.length < 1 := by
        have := (List.getElem?_eq_some_iff.1 hw').1
        simpa using this
      show some s.workers.length = some i
      rw [show i = s.workers.length by omega]

end Subscription

/-- What holds of every subscription at every time. -/
structure Record.Orderly (v : Record) : Prop where
  /-- It can send through its connection while it is valid. -/
  attached : v.sub.attached = v.sub.valid
  live : v.live = v.sub.valid
  /-- At most one worker was not told to end. -/
  disciplined : v.sub.Disciplined
  /-- At most one worker has the receiving end of the queue. -/
  receiver : v.sub.OneReceiver
  /-- The messages accepted were taken or are queued. -/
  messages : v.story.accepted = v.story.taken ++ v.sub.queue.entries.map (·.message)
  handler : v.sub.handler = v.story.handler?
  delivered : v.sub.delivered = v.story.begun

namespace Record

variable {calm strict : Prop} {v v' : Record} {i : Nat}

/-- A new subscription. -/
theorem orderly_registered {s : Subscription} (hs : s.attached = s.valid) (hv : s.valid = true)
    (hw : s.workers = []) (hq : s.queue.entries = []) (hd : s.delivered = 0) :
    Orderly ⟨s, true, [.registered s.sid s.handler s.max]⟩ where
  attached := hs
  live := hv.symm
  disciplined i w hi _ := by simp [hw] at hi
  receiver i j p p' hi := by simp [Subscription.phase?, hw] at hi
  messages := by simp [Story.accepted, Story.taken, hq]
  handler := rfl
  delivered := hd

theorem Drifts.handler?_story (h : v.Drifts calm v') : v'.story.handler? = v.story.handler? := by
  obtain ⟨ms, hstory, -⟩ := h.messages
  rw [hstory]
  exact (Story.append_accepted v.sub.sid ms v.story).2.2.1

theorem Drifts.ceiling_story (h : v.Drifts calm v') : v'.story.ceiling = v.story.ceiling := by
  obtain ⟨ms, hstory, -⟩ := h.messages
  rw [hstory]
  exact (Story.append_accepted v.sub.sid ms v.story).2.2.2.2.1

theorem Drifts.orderly (h : v.Drifts calm v') (ho : v.Orderly) : v'.Orderly := by
  obtain ⟨ms, hstory, hqueue⟩ := h.messages
  obtain ⟨ha, ht, hh, hb, -, -, -⟩ := Story.append_accepted v.sub.sid ms v.story
  rw [← hstory] at ha ht hh hb
  exact {
    attached := h.attached ho.attached
    live := h.live ho.live
    disciplined := h.disciplined ho.disciplined
    receiver := ho.receiver.of_phase? fun j q hj hq => ⟨q, (h.phase? j).symm.trans hj, hq⟩
    messages := by rw [ha, ht, hqueue, ho.messages, List.append_assoc]
    handler := by rw [h.handler, hh, ho.handler]
    delivered := by rw [h.delivered, hb, ho.delivered] }

theorem Evolves.orderly (h : v.Evolves strict v') (ho : v.Orderly) : v'.Orderly := by
  induction h with
  | drift h => exact h.orderly ho
  | trans _ _ ih ih' => exact ih' (ih ho)
  | hold | setCeiling => exact { ho with }
  | setHandler => exact { ho with handler := rfl }
  | enable v stopping hs =>
    have henable : v.Evolves strict (v.update fun s => (s.enable stopping).2) :=
      .enable v stopping hs
    have hreceiver : (v.sub.enable stopping).2.OneReceiver := by
      refine ho.receiver.of_phase? fun j q hj hq => ?_
      rcases henable.phase? j with hsame | ⟨-, hnew⟩
      · exact ⟨q, hsame.symm.trans hj, hq⟩
      · cases hj.symm.trans hnew
        exact hq.elim
    have hdis := ho.disciplined.enable stopping
    rcases workers_enable v.sub stopping with heq | ⟨-, heq⟩
    · rw [Record.update, heq]
      exact ho
    · rw [heq] at hreceiver hdis
      rw [Record.update, heq]
      exact { ho with disciplined := hdis, receiver := hreceiver }
  | exhaust max hd _ => exact hd.orderly { ho with }

theorem entries_close (q : Dispatch Delivery) : q.close.entries = q.entries := by
  unfold Dispatch.close
  split <;> rfl

/-- What is accepted stays in order when a message is taken. -/
theorem Orderly.messages_take (ho : v.Orderly) {d : Delivery} {q : Dispatch Delivery}
    (h : v.sub.Takes i d q) :
    v.story.accepted = (v.story.taken ++ [d.message]) ++ q.entries.map (·.message) := by
  rw [ho.messages, h.entries, List.map_cons, List.append_assoc]
  rfl

theorem Works.orderly (h : v.Works i v') (ho : v.Orderly) : v'.Orderly := by
  cases h with
  | lineUp hw hp =>
    exact { ho with
      disciplined := ho.disciplined.setPhase i _
      receiver := ho.receiver.lineUp i _ }
  | exit h =>
    have hreceiver : (v.sub.setPhase i .finished).OneReceiver := ho.receiver.setPhase fun hr => hr.elim
    have hdis := ho.disciplined.setPhase i .finished
    rw [Record.update]
    unfold Subscription.exited
    dsimp only
    split
    · exact { ho with disciplined := hdis, receiver := hreceiver }
    · have hmessages : v.story.accepted =
          v.story.taken ++ v.sub.queue.close.entries.map (·.message) := by
        rw [entries_close]
        exact ho.messages
      exact { ho with disciplined := hdis, receiver := hreceiver, messages := hmessages }
  | discard h hh => exact { ho with messages := ho.messages_take h }
  | waste h hl => exact { ho with messages := ho.messages_take h }
  | @begin d q handler invocation h hh ha hm hceiling hcount =>
    have hreceiver : (v.sub.setPhase i (.handling invocation)).OneReceiver :=
      ho.receiver.setPhase fun _ => ⟨_, h.phase?, trivial⟩
    exact { ho with
      disciplined := ho.disciplined.setPhase i _
      receiver := hreceiver
      messages := ho.messages_take h
      delivered := congrArg (· + 1) ho.delivered }
  | goOn h _ =>
    exact { ho with
      disciplined := ho.disciplined.setPhase i _
      receiver := ho.receiver.setPhase fun _ => ⟨_, h, trivial⟩ }
  | finish h _ =>
    exact { ho with
      disciplined := ho.disciplined.setPhase i _
      receiver := ho.receiver.setPhase fun _ => ⟨_, h, trivial⟩ }

end Record

end PubSub
