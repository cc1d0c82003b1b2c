import PubSub.Consumer.Fields
import Mathlib.Data.List.Induction

/-!
# Options are made of last values

A draft holds of each field what was last written to it (`SubscribeOptions.draft_ofCalls_eq`), so the order
of entries matters only among those that write to one field. Building a draft checks the fields one
after the other and stops at the first that is flawed (`SubscribeOptions.build_eq`); since a check
looks at the last value alone, a flaw that was overwritten is none.

## Main results

- `SubscribeOptions.last_of_reordered` — what a change of the order keeps
- `SubscribeOptions.forM_eq_error_iff` — checks in order fail at the first that fails
- `SubscribeOptions.verdict_eq_error_iff` — a check fails exactly on a flaw, and with its name
- `SubscribeOptions.built_from_last_values` — what is built, when it is, and what else is answered
-/

namespace PubSub.SubscribeOptions

/-! ## Last values -/

theorem last_concat (field : Field) (calls : List Call) (call : Call) :
    last field (calls ++ [call]) = (call.value? field).or (last field calls) := by
  simp only [last, List.filterMap_append, List.getLast?_append]
  cases h : call.value? field <;> simp [h]

/-- Entries that write to different fields can change places. -/
theorem last_of_reordered {calls calls' : List Call} (h : Reordered calls calls') (field : Field) :
    last field calls = last field calls' := by
  induction h with
  | refl => rfl
  | @swap before after a b hdifferent =>
    simp only [last, List.filterMap_append, List.filterMap_cons]
    rcases hdifferent field with ha | hb
    · rw [ha]
    · rw [hb]
  | trans _ _ ih ih' => exact ih.trans ih'

/-- The draft made of the values last written. -/
def Draft.ofLast (calls : List Call) : Draft where
  stream := last .stream calls
  consumer := last .consumer calls
  configuration := last .configuration calls
  autoAck := (last .autoAck calls).getD true
  durable := last .durable calls
  deliverSubject := last .deliverSubject calls
  pullBatchSize := last .pullSize calls

/-- A draft holds what was last written to each field. -/
theorem draft_ofCalls_eq (calls : List Call) : Draft.ofCalls calls = Draft.ofLast calls := by
  induction calls using List.reverseRecOn with
  | nil => rfl
  | append_singleton calls call ih =>
    have hstep : Draft.ofCalls (calls ++ [call]) = (Draft.ofCalls calls).record call :=
      List.foldl_append
    rw [hstep, ih]
    cases call <;> simp only [Draft.ofLast, last_concat] <;> rfl

/-! ## Checks in order -/

section

variable {ε β : Type} (f : β → Except ε Unit)

/-- A list of checks passes if each of them does. -/
theorem forM_eq_ok_iff (l : List β) : forM l f = .ok () ↔ ∀ x ∈ l, f x = .ok () := by
  induction l with
  | nil => simp [pure, Except.pure]
  | cons x l ih =>
    rw [List.forM_cons, List.forall_mem_cons, ← ih]
    cases h : f x with
    | ok u => simp [bind, Except.bind]
    | error e => simp [bind, Except.bind]

/-- A list of checks fails as the first does that fails. -/
theorem forM_eq_error_iff (l : List β) {e : ε} :
    forM l f = .error e ↔ ∃ before x after, l = before ++ x :: after ∧ f x = .error e ∧
      ∀ y ∈ before, f y = .ok () := by
  induction l with
  | nil => simp [pure, Except.pure]
  | cons x l ih =>
    rw [List.forM_cons]
    cases h : f x with
    | error e' =>
      simp only [bind, Except.bind, Except.error.injEq]
      constructor
      · rintro rfl
        exact ⟨[], x, l, rfl, h, nofun⟩
      · rintro ⟨before, y, after, heq, hy, hok⟩
        cases before with
        | nil =>
          obtain ⟨rfl, -⟩ := List.cons.inj heq
          rw [h] at hy
          exact Except.error.inj hy
        | cons z before =>
          -- the failing check would have to be one that passed
          obtain ⟨rfl, -⟩ := List.cons.inj heq
          rw [hok x List.mem_cons_self] at h
          cases h
    | ok u =>
      simp only [bind, Except.bind, ih]
      constructor
      · rintro ⟨before, y, after, rfl, hy, hok⟩
        refine ⟨x :: before, y, after, rfl, hy, ?_⟩
        rw [List.forall_mem_cons]
        exact ⟨h, hok⟩
      · rintro ⟨before, y, after, heq, hy, hok⟩
        cases before with
        | nil =>
          obtain ⟨rfl, -⟩ := List.cons.inj heq
          rw [h] at hy
          cases hy
        | cons z before =>
          obtain ⟨rfl, rfl⟩ := List.cons.inj heq
          rw [List.forall_mem_cons] at hok
          exact ⟨before, y, after, rfl, hy, hok.2⟩

end

/-! ## Checks of a draft -/

/-- What the check of a field says of a draft. -/
def Draft.verdict (d : Draft) : Field → Except OptionsError Unit
  | .stream => check isName (.invalidName .stream) d.stream
  | .consumer => check isName (.invalidName .consumer) d.consumer
  | .durable => check isName (.invalidName .durable) d.durable
  | .deliverSubject => check Subject.isValid .invalidDeliverSubject d.deliverSubject
  | .pullSize => check (fun n => 1 ≤ n && n ≤ maxPullBatchSize) .invalidPullBatchSize d.pullBatchSize
  | .configuration => .ok ()
  | .autoAck => .ok ()

/-- The options of a draft that needs no check. -/
def Draft.options (d : Draft) : SubscribeOptions where
  stream := d.stream
  consumer := d.consumer
  configuration := { d.configuration.getD {} with
    durable := d.durable <|> (d.configuration.getD {}).durable
    deliverSubject := d.deliverSubject <|> (d.configuration.getD {}).deliverSubject }
  autoAck := d.autoAck
  pullBatchSize := d.pullBatchSize.getD 0

/-- Building a draft makes the checks in order and then the options. -/
theorem build_eq (d : Draft) : d.build = (do forM checkOrder d.verdict; return d.options) := by
  simp only [Draft.build, checkOrder, List.forM_cons, List.forM_nil, Draft.verdict, bind_assoc,
    pure_bind]
  rfl

/-- A check fails exactly on a value that is not what it is said to be, and tells of that value. -/
theorem check_eq_error_iff {β : Type} {ok : β → Bool} {Good : β → Prop}
    (hok : ∀ b, ok b = true ↔ Good b) {error : β → OptionsError} {value : Option β}
    {e : OptionsError} :
    check ok error value = .error e ↔ ∃ b, value = some b ∧ ¬Good b ∧ e = error b := by
  cases value with
  | none => simp [check]
  | some b =>
    simp only [check, Option.some.injEq]
    constructor
    · intro h
      split at h
      · cases h
      · next hbad => exact ⟨b, rfl, fun hgood => hbad ((hok b).2 hgood), (Except.error.inj h).symm⟩
    · rintro ⟨_, rfl, hbad, rfl⟩
      rw [if_neg fun hgood => hbad ((hok _).1 hgood)]

theorem isName_iff (s : String) : isName s = true ↔ PlainName s := by
  simp [isName, PlainName, List.any_eq_false, and_assoc]

theorem isValid_iff (s : String) : Subject.isValid s = true ↔ PlainSubject s := Text.isWord_iff

theorem isPullSize_iff (n : Nat) :
    (decide (1 ≤ n) && decide (n ≤ maxPullBatchSize)) = true ↔ 1 ≤ n ∧ n ≤ 256 := by
  rw [Bool.and_eq_true, decide_eq_true_iff, decide_eq_true_iff, maxPullBatchSize]

/-- The check of a field fails exactly on a flaw of the value last written to it. -/
theorem verdict_eq_error_iff {calls : List Call} {field : Field} {e : OptionsError} :
    (Draft.ofLast calls).verdict field = .error e ↔ Flaw calls field e := by
  cases field with
  | stream | consumer | durable =>
    rw [Draft.verdict, check_eq_error_iff isName_iff]
    constructor
    · rintro ⟨s, hlast, hbad, rfl⟩
      constructor
      · exact hlast
      · exact hbad
    · intro h
      cases h
      next hlast hbad => exact ⟨_, hlast, hbad, rfl⟩
  | deliverSubject =>
    rw [Draft.verdict, check_eq_error_iff isValid_iff]
    constructor
    · rintro ⟨s, hlast, hbad, rfl⟩
      exact .deliverSubject hlast hbad
    · intro h
      cases h
      next hlast hbad => exact ⟨_, hlast, hbad, rfl⟩
  | pullSize =>
    rw [Draft.verdict, check_eq_error_iff isPullSize_iff]
    constructor
    · rintro ⟨n, hlast, hbad, rfl⟩
      exact .pullSize hlast hbad
    · intro h
      cases h
      next hlast hbad => exact ⟨_, hlast, hbad, rfl⟩
  | configuration | autoAck =>
    constructor
    · intro h
      cases h
    · intro h
      cases h

/-- The last value of a field passes exactly if it has no flaw. -/
theorem verdict_eq_ok_iff {calls : List Call} {field : Field} :
    (Draft.ofLast calls).verdict field = .ok () ↔ ∀ e, ¬Flaw calls field e := by
  cases h : (Draft.ofLast calls).verdict field with
  | ok u =>
    simp only [true_iff]
    intro e hflaw
    rw [verdict_eq_error_iff.2 hflaw] at h
    cases h
  | error e =>
    have hflaw := verdict_eq_error_iff.1 h
    simp only [reduceCtorEq, false_iff]
    intro hnone
    exact hnone e hflaw

/-! ## What is built -/

theorem sound_iff {calls : List Call} :
    Sound calls ↔ ∀ field ∈ checkOrder, ∀ e, ¬Flaw calls field e := by
  constructor
  · intro h field _ e hflaw
    cases hflaw with
    | stream hlast hbad => exact hbad (h.stream _ hlast)
    | consumer hlast hbad => exact hbad (h.consumer _ hlast)
    | durable hlast hbad => exact hbad (h.durable _ hlast)
    | deliverSubject hlast hbad => exact hbad (h.deliverSubject _ hlast)
    | pullSize hlast hbad => exact hbad (h.pullSize _ hlast)
  · intro h
    refine ⟨fun s hlast => ?_, fun s hlast => ?_, fun s hlast => ?_, fun s hlast => ?_,
      fun n hlast => ?_⟩
    · exact by_contra fun hbad => h .stream (by decide) _ (.stream hlast hbad)
    · exact by_contra fun hbad => h .consumer (by decide) _ (.consumer hlast hbad)
    · exact by_contra fun hbad => h .durable (by decide) _ (.durable hlast hbad)
    · exact by_contra fun hbad => h .deliverSubject (by decide) _ (.deliverSubject hlast hbad)
    · exact by_contra fun hbad => h .pullSize (by decide) _ (.pullSize hlast hbad)

/-- A list of entries is built by its checks in order. -/
theorem ofCalls_eq (calls : List Call) : ofCalls calls =
    (do forM checkOrder (Draft.ofLast calls).verdict; return described calls) := by
  have hor : ∀ a b : Option String, (a <|> b) = a.or b := by
    intro a b
    cases a <;> rfl
  have hoptions : (Draft.ofLast calls).options = described calls := by
    simp only [Draft.options, hor]
    rfl
  rw [ofCalls, draft_ofCalls_eq, build_eq, hoptions]

theorem ofCalls_eq_ok_iff {calls : List Call} {o : SubscribeOptions} :
    ofCalls calls = .ok o ↔ Sound calls ∧ o = described calls := by
  have hsound : Sound calls ↔ forM checkOrder (Draft.ofLast calls).verdict = .ok () := by
    simp only [sound_iff, forM_eq_ok_iff, verdict_eq_ok_iff]
  rw [hsound, ofCalls_eq]
  cases forM checkOrder (Draft.ofLast calls).verdict with
  | ok u => simp [bind, Except.bind, pure, Except.pure, eq_comm]
  | error e => simp [bind, Except.bind]

theorem ofCalls_eq_error_iff {calls : List Call} {e : OptionsError} :
    ofCalls calls = .error e ↔ ∃ before field after, checkOrder = before ++ field :: after ∧
      Flaw calls field e ∧ ∀ f ∈ before, ∀ e', ¬Flaw calls f e' := by
  have hfirst : forM checkOrder (Draft.ofLast calls).verdict = .error e ↔
      ∃ before field after, checkOrder = before ++ field :: after ∧
        Flaw calls field e ∧ ∀ f ∈ before, ∀ e', ¬Flaw calls f e' := by
    simp only [forM_eq_error_iff, verdict_eq_error_iff, verdict_eq_ok_iff]
  rw [← hfirst, ofCalls_eq]
  cases forM checkOrder (Draft.ofLast calls).verdict with
  | ok u => simp [bind, Except.bind, pure, Except.pure]
  | error e' => simp [bind, Except.bind]

/-- What comes of a list of entries hangs on what was last written to each field, so that entries
which write to different fields can be given in any order. Options are built exactly when the last
values are all as they have to be, and then are the options with these values; a durable name or
deliver subject that was written itself comes before that of the configuration, whichever was written
first. Otherwise the answer tells of the first field that is flawed, in the order in which they are
checked, and of its last value. -/
theorem built_from_last_values :
    (∀ calls calls' : List Call, (∀ field, last field calls = last field calls') →
      ofCalls calls = ofCalls calls') ∧
    (∀ calls calls' : List Call, Reordered calls calls' → ofCalls calls = ofCalls calls') ∧
    (∀ calls : List Call, (∃ o, ofCalls calls = .ok o) ↔ Sound calls) ∧
    (∀ (calls : List Call) (o : SubscribeOptions), ofCalls calls = .ok o → o = described calls) ∧
    ∀ (calls : List Call) (e : OptionsError), ofCalls calls = .error e ↔
      ∃ before field after, checkOrder = before ++ field :: after ∧ Flaw calls field e ∧
        ∀ f ∈ before, ∀ e', ¬Flaw calls f e' := by
  have hlast : ∀ calls calls' : List Call, (∀ field, last field calls = last field calls') →
      ofCalls calls = ofCalls calls' := by
    intro calls calls' h
    have hdraft : Draft.ofLast calls = Draft.ofLast calls' := by
      simp only [Draft.ofLast, h]
    rw [ofCalls, ofCalls, draft_ofCalls_eq, draft_ofCalls_eq, hdraft]
  refine ⟨hlast, fun calls calls' h => hlast calls calls' (last_of_reordered h), fun calls => ?_,
    fun calls o h => (ofCalls_eq_ok_iff.1 h).2, fun calls e => ofCalls_eq_error_iff⟩
  constructor
  · rintro ⟨o, ho⟩
    exact (ofCalls_eq_ok_iff.1 ho).1
  · intro h
    exact ⟨described calls, ofCalls_eq_ok_iff.2 ⟨h, rfl⟩⟩

end PubSub.SubscribeOptions
