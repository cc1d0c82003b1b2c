import PubSub.Proofs.Connection.Planned
import PubSub.Proofs.Connection.Silence

/-!
# The delivery ceiling

A ceiling holds from the moment it is set: the deliveries never exceed it, or stay where they were if
they exceeded it already, in which case the subscription ended at once. Otherwise the invocation that
reaches it ends the subscription when it is over, whatever it did and however it ended.
-/

namespace PubSub

theorem Subscription.Stopped.isStarted {s : Subscription} (h : s.Stopped) : s.isStarted = false := by
  unfold Subscription.isStarted
  split
  · next w hw =>
    obtain ⟨i, -, hi⟩ := Option.bind_eq_some_iff.1 hw
    simp [h w (List.mem_of_getElem? hi)]
  · rfl

/-- The invocation that reaches a ceiling began after that was set, so it knows it. -/
theorem Record.Limited.isLast {v : Record} (hl : v.Limited) {i : Nat} {invocation : Invocation}
    (hphase : v.sub.phase? i = some (.handling invocation)) (hmax : v.sub.max ≠ 0)
    (hlt : v.story.ceiling.2 < v.sub.max) (hcount : invocation.count = v.sub.max) :
    invocation.IsLast := by
  rcases (hl.invocation i invocation hphase).2 with hle | hceiling
  · rw [hcount] at hle
    exact absurd hle (Nat.not_le_of_lt hlt)
  · exact ⟨hceiling ▸ hmax, hcount.trans hceiling.symm⟩

theorem Record.Ended.not_mem {v : Record} {i : Nat} (h : v.Ended i) {c : Connection} {sid : Sid}
    (hv : c.record? sid = some v) : sid ∉ c.table := by
  intro hmem
  have hlive := (Connection.record?_eq_some_iff.1 hv).2.1
  rw [h.live, List.contains_eq_mem, decide_eq_false_iff_not] at hlive
  exact hlive hmem

namespace Connection

variable {c : Connection} {t : Transport} {sid : Sid}

/-- What setting a ceiling on a valid subscription leaves, whether or not the server learns of it. -/
theorem ceiling_autoUnsubscribe (ht : t.Drifts) {s : Subscription}
    (hs : c.subscription? sid = some s)
    (ho : Record.Orderly ⟨s, c.table.contains sid, c.story sid⟩) (hvalid : s.valid = true)
    (n : Nat) :
    ∃ s', (c.autoUnsubscribe t sid n).2.subscription? sid = some s' ∧
      ((c.autoUnsubscribe t sid n).2.story sid).ceiling = (n, s.delivered) ∧
      (n ≠ 0 → n ≤ s.delivered → s'.valid = false) := by
  obtain rfl : s.sid = sid := sid_of_subscription? hs
  obtain ⟨hd, hends⟩ := drifts_autoUnsubscribe ht hs hvalid n
  obtain ⟨v', hv', hdrift⟩ := hd.record s.sid _ (alters_setCeiling hs n).after
  obtain ⟨hs', -, hstory⟩ := record?_eq_some_iff.1 hv'
  refine ⟨v'.sub, hs', ?_, fun hn hle => hends hn hle v' hv'⟩
  have hset : Story.ceiling (.ceilingSet s.sid n :: c.story s.sid) = (n, s.delivered) :=
    congrArg (Prod.mk n) ho.delivered.symm
  rw [hstory]
  exact hdrift.ceiling_story.trans hset

/-- Along every run, for the ceiling `n` of a subscription that was set last, when `d` invocations had
begun: the deliveries are the invocations begun, and one at work is the last of them; if `n` is not
zero there are never more of them than `n`, or than `d` if that was more, and if `n` was reached then
the subscription ended at once. If `n` was not reached then and a handler is at work on the `n`-th
delivery, a step of its worker that can go on makes one of the steps that are left to the handler, or
else the invocation is over, and at once the worker has ended, and the subscription is invalid, not in
the table and has no worker that was not told to end. So however the run goes on, the handler is at
work with as many of its steps behind it as its worker went on, or the invocation is over, its worker
has ended, and the subscription is invalid and not in the table. Setting a ceiling on a valid
subscription sets it, whether or not the server learns of it, and a new subscription has the ceiling
that was planned for it. -/
theorem ceiling_holds (o : Session.Opening) (id : Nat) (clock : Instant) (handle : Nat)
    (moves : List Move) (sid : Sid) :
    let c := (o.connect id clock handle).run moves
    (∀ s, c.subscription? sid = some s →
      let n := (c.story sid).ceiling.1
      let d := (c.story sid).ceiling.2
      s.max = n ∧ s.delivered = (c.story sid).begun ∧
      (∀ (i : Nat) (w : Worker) (invocation : Invocation), s.workers[i]? = some w →
        w.phase = .handling invocation → invocation.count = (c.story sid).begun) ∧
      (n ≠ 0 → s.delivered ≤ max d n) ∧
      (n ≠ 0 → n ≤ d → s.valid = false) ∧
      (n ≠ 0 → d < n → ∀ (i : Nat) (w : Worker) (invocation : Invocation),
        s.workers[i]? = some w → w.phase = .handling invocation → invocation.count = n →
        (let c' := (c.stepWorker transport sid i).2;
          (s.isReady i c.clock = false ∧ c' = c) ∨
          (∃ s' invocation', c'.subscription? sid = some s' ∧
            s'.phase? i = some (.handling invocation') ∧
            invocation'.delivery = invocation.delivery ∧ invocation'.count = n ∧
            invocation'.steps + 1 = invocation.steps) ∨
          (c.EndedSince sid c' ∧ ∃ s', c'.subscription? sid = some s' ∧
            s'.phase? i = some .finished ∧ s'.valid = false ∧ sid ∉ c'.table ∧
            s'.isStarted = false ∧ ∀ w ∈ s'.workers, w.cancelled = true)) ∧
        ∀ later : List Move,
          let c' := c.run later;
          (∃ s' invocation', c'.subscription? sid = some s' ∧
            s'.phase? i = some (.handling invocation') ∧
            invocation'.delivery = invocation.delivery ∧ invocation'.count = n ∧
            invocation'.steps + c.turns sid i later = invocation.steps) ∨
          (c.EndedSince sid c' ∧ ∃ s', c'.subscription? sid = some s' ∧
            s'.phase? i = some .finished ∧ s'.valid = false ∧ sid ∉ c'.table)) ∧
      (s.valid = true → ∀ m,
        let c' := (c.autoUnsubscribe transport sid m).2
        ∃ s', c'.subscription? sid = some s' ∧ (c'.story sid).ceiling = (m, s.delivered) ∧
          (m ≠ 0 → m ≤ s.delivered → s'.valid = false))) ∧
    ∀ handle plan new c', c.build handle plan = (.ok new, c') ∨
        c.subscribe transport handle plan = (.ok new, c') →
      ∃ s', c'.subscription? new = some s' ∧ s'.max = plan.max ∧
        (c'.story new).ceiling = (plan.max, 0) := by
  intro c
  have hsound : c.Sound fun _ => False :=
    (sound_connect o id clock handle).run moves fun _ hf => hf.elim
  refine ⟨fun s hs => ?_, fun handle plan new c' hmade => ?_⟩
  · intro n d
    have hv := hsound.record sid _ (record?_of_subscription? hs)
    have hmax : s.max = n := hv.limited.ceiling
    have hwork : ∀ (i : Nat) (w : Worker) (invocation : Invocation), s.workers[i]? = some w →
        w.phase = .handling invocation → s.phase? i = some (.handling invocation) :=
      fun i w invocation hw hp => Subscription.phase?_eq_some_iff.2 ⟨w, hw, hp⟩
    refine ⟨hmax, hv.orderly.delivered, fun i w invocation hw hp => ?_, fun hn => ?_,
      fun hn hle => ?_, ?_, fun hvalid m =>
        ceiling_autoUnsubscribe drifts_transport hs hv.orderly hvalid m⟩
    · exact ((hv.limited.invocation i invocation (hwork i w invocation hw hp)).1).trans
        hv.orderly.delivered
    · have hlimit := hv.limited.limit
      rw [← hmax] at hn ⊢
      exact hlimit hn
    · have hexhausted := hv.limited.exhausted
      rw [← hmax] at hn hle
      exact hexhausted hn hle
    · intro hn hlt i w invocation hw hp hcount
      have hphase := hwork i w invocation hw hp
      have hlast : invocation.IsLast := by
        rw [← hmax] at hn hlt hcount
        exact hv.limited.isLast hphase hn hlt hcount
      constructor
      · intro c'
        cases hready : s.isReady i c.clock with
        | false => exact Or.inl ⟨rfl, stepWorker_of_not_isReady hs hready⟩
        | true =>
          rcases turn_stepWorker sends_transport drifts_transport hs hv.orderly hphase hready with
            ⟨s', invocation', hs', hp', hnext⟩ | ⟨hended, hover⟩
          · exact Or.inr (Or.inl ⟨s', invocation', hs', hp', hnext.delivery,
              hnext.count.trans hcount, hnext.steps⟩)
          · obtain ⟨v, hv', hend, hstopped⟩ := hover hlast
            exact Or.inr (Or.inr ⟨hended, v.sub, subscription?_of_record? hv', hend.finished,
              hend.invalid, hend.not_mem hv', hstopped.isStarted, hstopped⟩)
      · intro later c'
        rcases invocation_run hsound hs hphase later with
          ⟨s', invocation', hs', hp', hdelivery, hcount', hsteps⟩ | hover
        · exact Or.inl ⟨s', invocation', hs', hp', hdelivery, hcount'.trans hcount, hsteps⟩
        · obtain ⟨v, hv', hend⟩ := hover.last hlast
          exact Or.inr ⟨hover.ended, v.sub, subscription?_of_record? hv', hend.finished,
            hend.invalid, hend.not_mem hv'⟩
  · obtain ⟨v, hv, hplan⟩ := hsound.asPlanned drifts_transport hmade
    obtain ⟨hs', -, hstory⟩ := record?_eq_some_iff.1 hv
    exact ⟨v.sub, hs', hplan.max, by rw [hstory, hplan.ceiling]⟩

/-- The theorem applies when the ceiling is set while a handler is at work on the first delivery: the
second is the last one, and when its handler is done the subscription is gone, though a third message
waits. -/
theorem ceiling_holds_last :
    let handler := Handler.mk "" [] [.yield 1]
    let moves : List Move := [.subscribe 1 { subject := "a", handler := some handler },
      .deliver 1 { subject := "a" }, .deliver 1 { subject := "b" }, .deliver 1 { subject := "c" },
      .stepWorker 1 0, .stepWorker 1 0, .autoUnsubscribe 1 2, .stepWorker 1 0, .stepWorker 1 0,
      .stepWorker 1 0, .stepWorker 1 0]
    let later : List Move := [.stepWorker 1 0, .stepWorker 1 0, .stepWorker 1 0]
    let c := (Session.Opening.connect { token := "" } 0 0 1).run moves
    c.EndedSince 1 (c.run later) ∧ ∃ s', (c.run later).subscription? 1 = some s' ∧
      s'.phase? 0 = some .finished ∧ s'.valid = false ∧ 1 ∉ (c.run later).table := by
  intro handler moves later c
  have hceiling : (c.story 1).ceiling = (2, 1) := by decide +kernel
  have hsome : ((c.subscription? 1).any fun s => (s.workers[0]?).any fun w =>
      w.invocation?.any fun invocation => invocation.count == 2 && invocation.steps == 3) =
        true := by decide +kernel
  have hturns : 3 ≤ c.turns 1 0 later := by decide +kernel
  obtain ⟨s, hs, hworker⟩ := (Option.any_eq_true _ _).1 hsome
  obtain ⟨w, hw, hinvocation⟩ := (Option.any_eq_true _ _).1 hworker
  obtain ⟨invocation, hinv, hprops⟩ := (Option.any_eq_true _ _).1 hinvocation
  obtain ⟨hcount, hsteps⟩ := Bool.and_eq_true_iff.1 hprops
  have hp : w.phase = .handling invocation := Worker.invocation?_eq_some_iff.1 hinv
  have hholds := ((ceiling_holds { token := "" } 0 0 1 moves 1).1 s hs).2.2.2.2.2.1
  have hlimits : (c.story 1).ceiling.1 = 2 ∧ (c.story 1).ceiling.2 = 1 := by rw [hceiling]; simp
  have hlater := (hholds (by rw [hlimits.1]; decide) (by rw [hlimits.1, hlimits.2]; decide) 0 w
    invocation hw hp ((beq_iff_eq.1 hcount).trans hlimits.1.symm)).2 later
  rcases hlater with ⟨s', invocation', -, -, -, -, hleft⟩ | hover
  · -- the handler had three steps left, and its worker made all of them
    have hthree : invocation.steps = 3 := beq_iff_eq.1 hsteps
    have hpos : 0 < invocation'.steps := Nat.succ_pos _
    have hleft' : invocation'.steps + c.turns 1 0 later = invocation.steps := hleft
    omega
  · exact hover

end Connection

end PubSub
