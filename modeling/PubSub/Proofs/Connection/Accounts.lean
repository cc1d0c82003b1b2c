import PubSub.Proofs.Connection.Correlation
import PubSub.Proofs.Connection.Reports
import PubSub.Proofs.Registry.Accounts

/-!
# Requests are accounted for

The metrics of the requests of a connection, as they are reported, agree with what its registry
holds, and what a registry answers is what it did. This is so of a registry that is used directly
and of one that a connection uses, along every run.

## Main definitions

- `Metrics.reported` — what a report says under a name
- `Registry.Accounted` — metrics, entries and requests agree, and so do answers and deeds

## Main results

- `Connection.Flow.balanced` — whatever becomes of a connection, its accounts are kept
- `Connection.requests_accounted` — in every state of every registry
-/

namespace PubSub

/-! ## Reports -/

namespace Metrics

/-- What is reported under a name; a metric that was never touched stands at zero. -/
def reported (m : Metrics) (name : String) : Int := (m.report.lookup name).getD 0

/-- The names of all metrics, in the order of the report. -/
def names : List String :=
  [nameOf "connections_active" none,
    nameOf "handler_failures_total" (some ("kind", FailureKind.error.word)),
    nameOf "handler_failures_total" (some ("kind", FailureKind.panic.word)),
    nameOf "messages_delivered_total" none,
    nameOf "messages_dropped_total" (some ("reason", "no_handler")),
    nameOf "messages_dropped_total" (some ("reason", "no_subscription")),
    nameOf "messages_dropped_total" (some ("reason", "queue_closed")),
    nameOf "requests_outstanding" none,
    nameOf "requests_resolved_total" (some ("outcome", Resolution.closing.label)),
    nameOf "requests_resolved_total" (some ("outcome", Resolution.timedOut.label)),
    nameOf "requests_resolved_total" (some ("outcome", Resolution.fulfilled.label)),
    nameOf "requests_resolved_total" (some ("outcome", Resolution.noResponders.label))]

theorem nodup_names : names.Nodup := by decide +kernel

/-- The value of a gauge, if it was used. -/
def gaugeValue? (g : Gauge) : Option Int := if g.isTouched then some g.value else none

/-- The value of a counter, if it was used. -/
def counterValue? (n : Nat) : Option Int := if n = 0 then none else some n

/-- The values of all metrics, in the order of the report. -/
def values (m : Metrics) : List (Option Int) :=
  [gaugeValue? m.connections, counterValue? m.deliveries.errors,
    counterValue? m.deliveries.panics, counterValue? m.deliveries.delivered,
    counterValue? m.deliveries.noHandler, counterValue? m.deliveries.noSubscription,
    counterValue? m.deliveries.queueClosed, gaugeValue? m.requests.outstanding,
    counterValue? (m.requests.count .closing), counterValue? (m.requests.count .timedOut),
    counterValue? (m.requests.count .fulfilled), counterValue? (m.requests.count .noResponders)]

theorem report_eq (m : Metrics) :
    m.report = (names.zip m.values).filterMap fun e => e.2.map (Prod.mk e.1) := by
  have hgauge : ∀ stem g, gaugeEntry stem g = (gaugeValue? g).map (Prod.mk (nameOf stem none)) := by
    intro stem g
    unfold gaugeEntry gaugeValue?
    split <;> rfl
  have hcounter : ∀ stem label n,
      counterEntry stem label n = (counterValue? n).map (Prod.mk (nameOf stem label)) := by
    intro stem label n
    unfold counterEntry counterValue?
    split <;> rfl
  simp only [report, hgauge, hcounter, names, values, List.zip_cons_cons, List.zip_nil_left,
    List.filterMap_cons, List.filterMap_nil, id_eq]

/-- Of entries with different names, the one with a name is found under it. -/
theorem lookup_filterMap_of_nodup {l : List (String × Option Int)} (hnd : (l.map (·.1)).Nodup)
    {name : String} {value : Option Int} (hm : (name, value) ∈ l) :
    (l.filterMap fun e => e.2.map (Prod.mk e.1)).lookup name = value := by
  induction l with
  | nil => cases hm
  | cons e rest ih =>
    obtain ⟨other, found⟩ := e
    obtain ⟨hnotin, hnd'⟩ := List.nodup_cons.1 hnd
    rcases List.mem_cons.1 hm with heq | hin
    · obtain ⟨rfl, rfl⟩ := Prod.mk.inj heq
      cases value with
      | some v => simp
      | none =>
        -- the metric was never touched, and no other has its name
        refine List.lookup_eq_none_iff.2 fun p hp => ?_
        obtain ⟨⟨other, found⟩, hmem, hsome⟩ := List.mem_filterMap.1 hp
        obtain ⟨v, -, rfl⟩ := Option.map_eq_some_iff.1 hsome
        rcases List.mem_cons.1 hmem with hself | hrest
        · cases hself
          cases hsome
        · have hne : name ≠ other := fun heq => hnotin (heq ▸ List.mem_map_of_mem (f := (·.1)) hrest)
          simpa using hne
    · have hne : name ≠ other := fun heq => hnotin (heq ▸ List.mem_map_of_mem (f := (·.1)) hin)
      have hbeq : (name == other) = false := by simpa using hne
      rw [← ih hnd' hin]
      cases found with
      | none => rfl
      | some v => simp [List.lookup_cons, hbeq]

/-- A metric is reported with its value. -/
theorem reported_of_mem (m : Metrics) {name : String} {value : Option Int}
    (h : (name, value) ∈ names.zip m.values) : m.reported name = value.getD 0 := by
  have hnames : (names.zip m.values).map (·.1) = names := List.map_fst_zip (by simp [names, values])
  have hlookup := lookup_filterMap_of_nodup (by rw [hnames]; exact nodup_names) h
  rw [reported, report_eq, hlookup]

theorem reported_outstanding (m : Metrics) :
    m.reported (nameOf "requests_outstanding" none) = m.requests.outstanding.value := by
  have hmem : (nameOf "requests_outstanding" none, gaugeValue? m.requests.outstanding) ∈
      names.zip m.values := by
    simp only [names, values, List.zip_cons_cons, List.mem_cons, true_or, or_true]
  rw [m.reported_of_mem hmem]
  unfold gaugeValue? Gauge.isTouched Gauge.value
  split
  · rfl
  · next h =>
    simp only [Bool.or_eq_true, decide_eq_true_eq, not_or] at h
    show (0 : Int) = _
    omega

theorem getD_counterValue? (n : Nat) : (counterValue? n).getD 0 = n := by
  by_cases h : n = 0 <;> simp [counterValue?, h]

/-- A counter is reported with its value, touched or not. -/
theorem reported_counter (m : Metrics) {name : String} {n : Nat}
    (h : (name, counterValue? n) ∈ names.zip m.values) : m.reported name = n := by
  rw [m.reported_of_mem h, getD_counterValue?]

theorem reported_resolved (m : Metrics) (x : Resolution) :
    m.reported (nameOf "requests_resolved_total" (some ("outcome", x.label))) =
      m.requests.count x := by
  refine m.reported_counter ?_
  cases x <;> simp only [names, values, List.zip_cons_cons, List.mem_cons, true_or, or_true]

theorem reported_failures (m : Metrics) (kind : FailureKind) :
    m.reported (nameOf "handler_failures_total" (some ("kind", kind.word))) =
      m.deliveries.failures kind := by
  refine m.reported_counter ?_
  cases kind <;> simp only [DeliveryCounts.failures, names, values, List.zip_cons_cons,
    List.mem_cons, true_or, or_true]

theorem reported_delivered (m : Metrics) :
    m.reported (nameOf "messages_delivered_total" none) = m.deliveries.delivered := by
  refine m.reported_counter ?_
  simp only [names, values, List.zip_cons_cons, List.mem_cons, true_or, or_true]

theorem reported_noHandler (m : Metrics) :
    m.reported (nameOf "messages_dropped_total" (some ("reason", "no_handler"))) =
      m.deliveries.noHandler := by
  refine m.reported_counter ?_
  simp only [names, values, List.zip_cons_cons, List.mem_cons, true_or, or_true]

theorem reported_noSubscription (m : Metrics) :
    m.reported (nameOf "messages_dropped_total" (some ("reason", "no_subscription"))) =
      m.deliveries.noSubscription := by
  refine m.reported_counter ?_
  simp only [names, values, List.zip_cons_cons, List.mem_cons, true_or, or_true]

end Metrics

/-! ## Registries -/

/-- The metrics of a registry agree with what it holds, and what it answers is what it did. -/
structure Registry.Accounted (reg : Registry) : Prop where
  /-- The gauge shows how many requests wait. -/
  outstanding : reg.counts.outstanding.value = reg.entries.length
  /-- Each counter shows how many requests ended in its way. -/
  resolved : ∀ x, reg.counts.count x = reg.requests.countP fun r => r.state = some x
  /-- Whatever was registered waits or was resolved in one of the four ways. -/
  registered : reg.requests.length = reg.entries.length + (reg.counts.count .fulfilled +
    reg.counts.count .closing + reg.counts.count .timedOut + reg.counts.count .noResponders)
  replied : ∀ key m, (reg.resolveReply key m).1 = true ↔ key ∈ reg.entries.map (·.1)
  abandoned : ∀ key, (reg.abandon key).1 = true ↔ key ∈ reg.entries.map (·.1)
  cancelled : reg.cancelAll.1 = reg.entries.length
  /-- A sweep answers by how much the registry shrank. -/
  swept : ∀ now, (reg.sweepExpired now).1 + (reg.sweepExpired now).2.entries.length =
    reg.entries.length

theorem Registry.Balanced.accounted {reg : Registry} (hb : reg.Balanced) (h : reg.Coherent) :
    reg.Accounted where
  outstanding := hb.outstanding
  resolved := hb.resolved
  registered := by
    rw [reg.length_requests, hb.pending, hb.resolved, hb.resolved, hb.resolved, hb.resolved]
  replied key m := by rw [h.fst_resolveReply, Coherent.contains_eq_true_iff]
  abandoned key := by rw [h.fst_abandon, Coherent.contains_eq_true_iff]
  cancelled := h.fst_cancelAll
  swept := h.fst_sweepExpired

namespace Connection

variable {exposed : Sid → Prop} {c c' : Connection}

/-- The accounts are kept whatever becomes of a connection. -/
theorem Flow.balanced (h : c.Flow exposed c') (hc : c.registry.Coherent)
    (hb : c.registry.Balanced) : c'.registry.Balanced := by
  induction h with
  | trans h _ ih ih' => exact ih' (h.coherent hc) (ih hc hb)
  | consult c op _ => exact hb.perform hc op
  | sweep c =>
    show (c.sweeper.step c.registry c.clock).2.Balanced
    rcases (c.sweeper.step_keeps c.registry c.clock).2 with heq | heq | heq
    · rw [heq]
      exact hb
    · rw [heq]
      exact hb.perform hc (.sweepExpired c.clock)
    · rw [heq]
      exact hb.noticed
  | enrol c options _ => exact hb.register hc _ options _ _
  | forgo c options _ => exact (hb.register hc _ options _ _).abandon (hc.register _ options _ _) _
  | close _ _ _ ih => exact ih (hc.perform .cancelAll) (hb.perform hc .cancelAll)
  | _ => exact hb

/-- The accounts of requests are kept by every registry that is used directly, whatever is done to
it, and by the registry of every connection along every run, whatever its transport does to frames
and whichever of them are barred; the metrics that a connection reports say the same under their
public names. The requests are those that were registered, one for each registration, and those of a
connection are as many as the reply subjects that it handed out. -/
theorem requests_accounted :
    (∀ ops : List Registry.Op, (Registry.run {} ops).Accounted ∧
      (Registry.run {} ops).requests.map (·.key) = ops.filterMap Registry.Op.registered? ∧
      (Registry.run {} ops).requests.length = ops.countP fun op => op.registered?.isSome) ∧
      ∀ (gate : Gate) (o : Session.Opening) (id : Nat) (clock : Instant) (handle : Nat)
        (moves : List Move) (dropped : Bool),
        let c := (o.connect id clock handle).runOver (gated gate) moves
        c.registry.Accounted ∧ c.registry.requests.length = c.inbox.issued ∧
          (c.metrics dropped).reported (Metrics.nameOf "requests_outstanding" none) =
            c.registry.entries.length ∧
          ∀ x : Resolution,
            (c.metrics dropped).reported
                (Metrics.nameOf "requests_resolved_total" (some ("outcome", x.label))) =
              c.registry.requests.countP fun r => r.state = some x := by
  refine ⟨fun ops => ?_, fun gate o id clock handle moves dropped => ?_⟩
  · have hcoherent := Registry.coherent_empty.run ops
    have hkeys : (Registry.run {} ops).keys = ops.filterMap Registry.Op.registered? :=
      Registry.keys_run {} ops
    refine ⟨(Registry.balanced_empty.run Registry.coherent_empty ops).accounted hcoherent, hkeys, ?_⟩
    rw [← Registry.length_keys, hkeys, List.length_filterMap_eq_countP]
  · intro c
    have hflow : (o.connect id clock handle).Flow (fun _ => True) c := flow_gated gate _ moves
    have haccounted := (hflow.balanced Registry.coherent_empty Registry.balanced_empty).accounted
      (hflow.coherent Registry.coherent_empty)
    have hnumbered : c.Numbered := hflow.numbered rfl
    refine ⟨haccounted, hnumbered.length_requests, ?_, fun x => ?_⟩
    · rw [Metrics.reported_outstanding]
      exact haccounted.outstanding
    · rw [Metrics.reported_resolved]
      exact congrArg Int.ofNat (haccounted.resolved x)

end Connection

end PubSub
