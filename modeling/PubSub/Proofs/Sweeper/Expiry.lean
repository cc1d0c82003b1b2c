import PubSub.Proofs.Registry.Pending
import PubSub.Proofs.Sweeper.Plan
import PubSub.Request.Watched

/-!
# Expiry is exact

Letting time pass until an instant leaves the registry as one sweep at that instant would leave it
(`Sweeper.advance_eq`): however long the interval of the sweeper, and whatever was registered or
taken out meanwhile, nothing expires early and nothing is left over. Time may be cut into pieces at
any instant (`Sweeper.advance_advance`), so this says at which instant each request expires.

Both rest on `Sweeper.advance_step`: a sweeper that has a plan does nothing until its sleep ends, and
then is where it was before, at a later instant.

All this goes as far as the clock does: it has to hold the end of the longest sleep from the last of
these instants. Whether or not it does, what is left is the work of sweeps on the way there
(`Sweeper.advance_induction`).
-/

namespace PubSub

namespace Sweeper

variable {sw : Sweeper} {reg : Registry} {now target : Nat}

/-- A sweeper whose sleep just ended is alert. -/
theorem Planned.alert {wakeAt : Nat} (h : sw.Planned reg now wakeAt) (hi : 0 < sw.interval)
    (later : Nat) : sw.Alert reg later :=
  ⟨hi, h.running, Or.inr ⟨wakeAt, h.phase, Or.inr (Or.inr h.early)⟩⟩

/-- A clock that can hold the end of a sleep can hold that of one that begins earlier. -/
theorem fits_of_le (hle : now ≤ target) (hfits : target + sw.interval < Instant.horizon) :
    now + sw.interval < Instant.horizon :=
  Nat.lt_of_le_of_lt (Nat.add_le_add_right hle _) hfits

/-- One round of letting time pass: settle, and then go on from the end of the sleep if that is not
too late. -/
theorem advanceBy_succ (h : sw.Alert reg now) (hfits : now + sw.interval < Instant.horizon)
    (hc : reg.Coherent) (target : Nat) (fuel : Nat) :
    ∃ wakeAt : Nat, (sw.asleep wakeAt).Planned (reg.sweepExpired now).2.noticed now wakeAt ∧
      sw.settle reg now = (sw.asleep wakeAt, (reg.sweepExpired now).2.noticed) ∧
      sw.advanceBy reg now target (fuel + 1) =
        if wakeAt ≤ target then
          (sw.asleep wakeAt).advanceBy (reg.sweepExpired now).2.noticed wakeAt target fuel
        else (sw.asleep wakeAt, (reg.sweepExpired now).2.noticed) := by
  obtain ⟨wakeAt, hsettle, hplan⟩ := h.settle_eq hfits hc
  refine ⟨wakeAt, hplan, hsettle, ?_⟩
  have hmax : max now wakeAt = wakeAt := Nat.max_eq_right (Nat.le_of_lt hplan.later)
  simp only [advanceBy, hsettle, timer?, hplan.phase, hmax]
  split
  · rfl
  · next hgt => exact (hplan.mono (Nat.lt_of_not_le hgt)).steps_eq 6

/-- Enough rounds are enough: any further ones change nothing. -/
theorem advanceBy_eq (h : sw.Alert reg now) (hfits : target + sw.interval < Instant.horizon)
    (hc : reg.Coherent) (hle : now ≤ target) {fuel : Nat} (hfuel : target - now < fuel) :
    sw.advanceBy reg now target fuel = sw.advance reg now target := by
  -- the induction is on the time that is left: the next sleep ends later than it began
  generalize hn : target - now = n at hfuel
  induction n using Nat.strongRecOn generalizing sw reg now fuel with
  | ind n ih =>
    obtain ⟨fuel, rfl⟩ : ∃ f, fuel = f + 1 := ⟨fuel - 1, by omega⟩
    have hnow := fits_of_le hle hfits
    obtain ⟨wakeAt, hplan, hsettle, hround⟩ := advanceBy_succ h hnow hc target fuel
    obtain ⟨wakeAt', -, hsettle', hround'⟩ := advanceBy_succ h hnow hc target (target - now)
    obtain rfl : wakeAt = wakeAt' :=
      asleep_inj.1 (Prod.mk.inj (hsettle.symm.trans hsettle')).1
    rw [advance, hround, hround']
    split
    · next hw =>
      have hlt := hplan.later
      have halert := hplan.alert h.interval wakeAt
      have hco := (hc.sweepExpired_spec now).1.noticed
      rw [ih (target - wakeAt) (by omega) halert hfits hco hw rfl (by omega),
        ih (target - wakeAt) (by omega) halert hfits hco hw rfl (by omega)]
    · rfl

/-- Letting time pass: settle, and go on from the end of the sleep if that is not too late. -/
theorem advance_step (h : sw.Alert reg now) (hfits : target + sw.interval < Instant.horizon)
    (hc : reg.Coherent) (hle : now ≤ target) :
    ∃ wakeAt : Nat, (sw.asleep wakeAt).Planned (reg.sweepExpired now).2.noticed now wakeAt ∧
      sw.settle reg now = (sw.asleep wakeAt, (reg.sweepExpired now).2.noticed) ∧
      sw.advance reg now target =
        if wakeAt ≤ target then
          (sw.asleep wakeAt).advance (reg.sweepExpired now).2.noticed wakeAt target
        else (sw.asleep wakeAt, (reg.sweepExpired now).2.noticed) := by
  obtain ⟨wakeAt, hplan, hsettle, hround⟩ :=
    advanceBy_succ h (fits_of_le hle hfits) hc target (target - now)
  refine ⟨wakeAt, hplan, hsettle, ?_⟩
  rw [advance, hround]
  split
  · next hw =>
    have hlt := hplan.later
    have hfuel : target - wakeAt < target - now := by omega
    exact advanceBy_eq (hplan.alert h.interval wakeAt) hfits (hc.sweepExpired_spec now).1.noticed hw
      hfuel
  · rfl

/-- Letting time pass until an instant leaves what one sweep at that instant would leave, and a
sweeper that has a plan. -/
theorem advance_eq (h : sw.Alert reg now) (hfits : target + sw.interval < Instant.horizon)
    (hc : reg.Coherent) (hle : now ≤ target) :
    ∃ wakeAt : Nat, sw.advance reg now target =
        (sw.asleep wakeAt, (reg.sweepExpired target).2.noticed) ∧
      (sw.asleep wakeAt).Planned (reg.sweepExpired target).2.noticed target wakeAt := by
  generalize hn : target - now = n
  induction n using Nat.strongRecOn generalizing sw reg now with
  | ind n ih =>
    obtain ⟨wakeAt, hplan, -, hstep⟩ := advance_step h hfits hc hle
    have hco := (hc.sweepExpired_spec now).1
    have hcompose : ((reg.sweepExpired now).2.noticed.sweepExpired target).2.noticed =
        (reg.sweepExpired target).2.noticed := by
      rw [hco.sweepExpired_noticed, hc.sweepExpired_sweepExpired hle]
      rfl
    rw [hstep]
    split
    · next hw =>
      have hlt := hplan.later
      obtain ⟨w, heq, hplan'⟩ := ih (target - wakeAt) (by omega)
        (hplan.alert h.interval wakeAt) hfits hco.noticed hw rfl
      rw [hcompose] at heq hplan'
      exact ⟨w, heq, hplan'⟩
    · next hw =>
      -- nothing more is due by the target, so the sweep there would find nothing
      have hlt : target < wakeAt := Nat.lt_of_not_le hw
      have hsame : ((reg.sweepExpired now).2.noticed.sweepExpired target).2 =
          (reg.sweepExpired now).2.noticed :=
        hco.noticed.sweepExpired_of_fresh fun e he =>
          Registry.isDueEntry_eq_false (fun d hd => Nat.lt_of_lt_of_le hlt (hplan.early d hd)) he
      have hnow : (reg.sweepExpired now).2.noticed = (reg.sweepExpired target).2.noticed := by
        rw [← hcompose, hsame]
        rfl
      have hplan' := hplan.mono hlt
      rw [hnow] at hplan' ⊢
      exact ⟨wakeAt, rfl, hplan'⟩

/-- Time may be cut into pieces at any instant. -/
theorem advance_advance (h : sw.Alert reg now) (hfits : target + sw.interval < Instant.horizon)
    (hc : reg.Coherent) {mid : Nat} (hmid : now ≤ mid) (hle : mid ≤ target) :
    (sw.advance reg now mid).1.advance (sw.advance reg now mid).2 mid target =
      sw.advance reg now target := by
  generalize hn : mid - now = n
  induction n using Nat.strongRecOn generalizing sw reg now with
  | ind n ih =>
    have hmidFits := fits_of_le hle hfits
    obtain ⟨wakeAt, hplan, hsettle, hstep⟩ := advance_step h hmidFits hc hmid
    obtain ⟨wakeAt', -, hsettle', hstep'⟩ := advance_step h hfits hc (Nat.le_trans hmid hle)
    obtain rfl : wakeAt = wakeAt' :=
      asleep_inj.1 (Prod.mk.inj (hsettle.symm.trans hsettle')).1
    have hco := (hc.sweepExpired_spec now).1.noticed
    by_cases hw : wakeAt ≤ mid
    · have hlt := hplan.later
      rw [hstep, if_pos hw, hstep', if_pos (Nat.le_trans hw hle)]
      exact ih (mid - wakeAt) (by omega) (hplan.alert h.interval wakeAt) hfits hco hw rfl
    · -- at the cut the sweeper sleeps on, so it settles there without a step
      have hlt : mid < wakeAt := Nat.lt_of_not_le hw
      rw [hstep, if_neg hw, hstep']
      obtain ⟨w, -, hsettleMid, hstepMid⟩ :=
        advance_step (hplan.alert h.interval mid) hfits hco hle
      have hidle : (sw.asleep wakeAt).settle (reg.sweepExpired now).2.noticed mid =
          (sw.asleep wakeAt, (reg.sweepExpired now).2.noticed) := (hplan.mono hlt).steps_eq 6
      rw [hidle] at hsettleMid
      obtain ⟨hsw, hreg⟩ := Prod.mk.inj hsettleMid
      obtain rfl : wakeAt = w := asleep_inj.1 hsw
      rw [hstepMid, ← hsw, ← hreg]

/-! ## Whether or not the clock ends -/

/-- What the passing of time leaves of the registry has whatever sweeps on the way and notes of
registrations keep. -/
theorem advance_induction {P : Registry → Prop}
    (hsweep : ∀ reg later, now ≤ later → later ≤ target → P reg → P (reg.sweepExpired later).2)
    (hnote : ∀ reg, P reg → P reg.noticed) (hle : now ≤ target) (h : P reg) :
    P (sw.advance reg now target).2 := by
  have hsettle (later : Nat) (hnow : now ≤ later) (htarget : later ≤ target) (sw : Sweeper)
      (reg : Registry) (h : P reg) : P (sw.settle reg later).2 :=
    steps_induction (fun reg => hsweep reg later hnow htarget) hnote h 6
  have hrounds (fuel later : Nat) (hnow : now ≤ later) (htarget : later ≤ target) (sw : Sweeper)
      (reg : Registry) (h : P reg) : P (sw.advanceBy reg later target fuel).2 := by
    induction fuel generalizing later sw reg with
    | zero => exact hsettle target hle (Nat.le_refl _) sw reg h
    | succ fuel ih =>
      have hround := hsettle later hnow htarget sw reg h
      rw [advanceBy]
      dsimp only
      split
      · split
        · next hwake =>
          exact ih _ (Nat.le_trans hnow (Nat.le_max_left _ _)) (Nat.max_le.2 ⟨htarget, hwake⟩) _ _
            hround
        · exact hsettle target hle (Nat.le_refl _) _ _ hround
      · exact hsettle target hle (Nat.le_refl _) _ _ hround
  exact hrounds _ now (Nat.le_refl _) hle sw reg h

end Sweeper

end PubSub
