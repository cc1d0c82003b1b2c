import PubSub.Proofs.Demo.Plot
import PubSub.Proofs.Sweeper.Plan

/-!
# The sweeper's turns in the demo

The sweeper plans its sleep, and plans it again when a request was made. A request that waits is not
due, since the clock is at its start; so no sweep finds anything, and no sleep planned ends at once.

## Main results

- `Demo.Plot.Sound.sweepExpired` — no sweep finds anything
- `Demo.Plot.exists_follows_sweeper` — the sweeper brings the demo forward
-/

namespace PubSub

namespace Registry

variable {reg : Registry} {number : Nat} {r : Request}

/-- That a registration was noticed changes nothing for the requests. -/
theorem Awaits.noticed (h : reg.Awaits number r) : reg.noticed.Awaits number r :=
  ⟨h.requests, h.entries, h.pending⟩

theorem Answered.noticed (h : reg.Answered number r) : reg.noticed.Answered number r :=
  ⟨h.requests, h.entries⟩

end Registry

namespace Demo.Plot

variable {p : Plot} {l : Ledger}

/-- When a request waits, the clock is at its start. -/
theorem Sound.waiting (hp : p.Sound) : p.registry.entries = [] ∨
    p.clock = 0 ∧ ∃ number, p.registry.Awaits number (p.request number) := by
  have hstaged := hp.staged
  unfold Staged at hstaged
  cases hstage : p.stage <;> rw [hstage] at hstaged <;> dsimp only at hstaged
  case awaitingEcho number =>
    obtain ⟨-, -, -, ⟨-, hawaits⟩ | ⟨-, hanswered⟩⟩ := hstaged
    · exact Or.inr ⟨hp.clock_of_stage (by simp [hstage]), 0, hawaits⟩
    · exact Or.inl hanswered.entries
  case awaitingNobody number =>
    obtain ⟨-, -, ⟨-, hawaits⟩ | ⟨-, hanswered⟩⟩ := hstaged
    · exact Or.inr ⟨hp.clock_of_stage (by simp [hstage]), 1, hawaits⟩
    · exact Or.inl hanswered.entries
  all_goals exact Or.inl (by tauto)

theorem expiresAt_pos (p : Plot) (number : Nat) : 0 < (p.request number).expiresAt := by
  have hgrace : 0 < graceMargin := by decide
  exact Nat.lt_of_lt_of_le hgrace (Nat.le_add_left ..)

/-- No request that waits is due. -/
theorem Sound.fresh (hp : p.Sound) : ∀ d ∈ p.registry.deadlines, p.clock < d := by
  intro d hd
  rcases hp.waiting with hempty | ⟨hzero, number, hawaits⟩
  · rw [Registry.deadlines_of_empty hempty] at hd
    cases hd
  · rw [hawaits.deadlines, List.mem_singleton] at hd
    rw [hzero, hd]
    exact p.expiresAt_pos number

theorem Sound.sweepExpired (hp : p.Sound) : (p.registry.sweepExpired p.clock).2 = p.registry := by
  rcases hp.waiting with hempty | ⟨hzero, number, hawaits⟩
  · exact Registry.sweepExpired_of_empty hempty _
  · rw [hzero]
    exact hawaits.sweepExpired (p.expiresAt_pos number)

theorem Sound.swept (hp : p.Sound) {sweeper : Sweeper.Phase} (hstopped : sweeper ≠ .stopped) :
    { p with sweeper := sweeper }.Sound :=
  ⟨hp.messages, hp.staged, hp.counted, hp.echoed, hp.placed, hstopped, hp.clock,
    hp.resting.imp_right fun h => ⟨h.stage, h.notice, h.events, h.echo⟩⟩

theorem Sound.noticed (hp : p.Sound) : { p with registry := p.registry.noticed }.Sound := by
  refine ⟨hp.messages, ?_, hp.counted, hp.echoed, hp.placed, hp.sweeper, hp.clock,
    hp.resting.imp_right fun h => ⟨h.stage, h.notice, h.events, h.echo⟩⟩
  have hstaged := hp.staged
  unfold Staged at hstaged ⊢
  dsimp only
  cases hstage : p.stage <;> rw [hstage] at hstaged <;> dsimp only at hstaged ⊢
  case awaitingEcho number =>
    obtain ⟨hnumber, hle, hsent, hwaits⟩ := hstaged
    exact ⟨hnumber, hle, hsent,
      hwaits.imp (fun h => ⟨h.1, h.2.noticed⟩) fun h => ⟨h.1, h.2.noticed⟩⟩
  case awaitingNobody number =>
    obtain ⟨hnumber, hsent, hwaits⟩ := hstaged
    exact ⟨hnumber, hsent, hwaits.imp (fun h => ⟨h.1, h.2.noticed⟩) fun h => ⟨h.1, h.2.noticed⟩⟩
  all_goals exact hstaged

theorem rank_lt_of_sweeps {registry : Registry} {sweeper : Sweeper.Phase}
    (h : { p with registry := registry, sweeper := sweeper }.sweepsLeft < p.sweepsLeft) :
    { p with registry := registry, sweeper := sweeper }.rank < p.rank := by
  have hframes : { p with registry := registry, sweeper := sweeper }.frames = p.frames := rfl
  have hstages :
    { p with registry := registry, sweeper := sweeper }.stagesLeft = p.stagesLeft := rfl
  simp only [rank, hframes, hstages]
  omega

/-- Whatever the sweeper does next, the demo goes on. -/
theorem exists_follows_sweeper (hp : p.Sound)
    (hready : (p.scene l).isReady (.task .sweeper) = true) :
    ∃ p', p.Follows p' ∧ (p.scene l).step (.task .sweeper) = p'.scene l := by
  cases hphase : p.sweeper with
  | planning =>
    let sw : Sweeper := { interval := Duration.ofSecs 5, phase := p.sweeper }
    have hlater : p.clock < sw.wakeAt p.registry p.clock :=
      Sweeper.lt_wakeAt (show 0 < Duration.ofSecs 5 by decide) hp.fresh
    have hfits : p.clock + Duration.ofSecs 5 < Instant.horizon :=
      Nat.lt_of_le_of_lt (Nat.add_le_add_right hp.clock _) (by decide)
    refine ⟨{ p with sweeper := .sleeping (sw.wakeAt p.registry p.clock) },
      ⟨hp.swept (by simp), rfl, rfl, rank_lt_of_sweeps ?_⟩, ?_⟩
    · simp only [sweepsLeft, hphase, if_neg (Nat.not_le_of_lt hlater)]
      omega
    · simp only [Scene.step, Node.stepTask, scene, Connection.stepSweeper, connection, Sweeper.step,
        hphase, if_pos hfits]
      rfl
  | sleeping wakeAt =>
    by_cases hdue : wakeAt ≤ p.clock
    · refine ⟨{ p with sweeper := .planning },
        ⟨hp.swept (by simp), rfl, rfl, rank_lt_of_sweeps ?_⟩, ?_⟩
      · simp only [sweepsLeft, hphase, if_pos hdue]
        omega
      · simp only [Scene.step, Node.stepTask, scene, Connection.stepSweeper, connection,
          Sweeper.step, hphase, if_pos hdue, hp.sweepExpired]
        rfl
    · have hsignalled : p.registry.signalled = true := by
        simpa [Scene.isReady, Node.isReady, scene, connection, Sweeper.isReady, hphase, hdue]
          using hready
      have hnoticed : p.registry.noticed.signalled = false := rfl
      refine ⟨{ p with registry := p.registry.noticed, sweeper := .planning },
        ⟨hp.noticed.swept (by simp), rfl, rfl, rank_lt_of_sweeps ?_⟩, ?_⟩
      · simp [sweepsLeft, hphase, hdue, hsignalled, hnoticed]
      · simp only [Scene.step, Node.stepTask, scene, Connection.stepSweeper, connection,
          Sweeper.step, hphase, if_neg hdue, hsignalled]
        rfl
  | stopped => exact absurd hphase hp.sweeper

end Demo.Plot

end PubSub
