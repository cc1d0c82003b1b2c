import PubSub.Proofs.Connection.Rest

/-!
# Subjects on the wire

Every subject and queue group that the application gives is checked before it is used, by whatever way
it comes into a frame: with the subscription that bears it, with a publish or with a request. The
subjects of a connection's own are made of the start of its inbox, which nobody checks, and of what is
free of white space. What a handler answers on was given by the sender of its message.

## Main definitions

- `Subscription.Named` — the subject and the queue group of a subscription can be sent
- `Frame.Proper` — every name in a frame can be sent or has a given start

## Main results

- `Connection.Course.emits` — whatever is done offers proper frames only, but for answers
- `Connection.names_valid` — every frame that is offered in a run
- `Connection.names_broken` — an inbox whose start holds white space
-/

namespace PubSub

/-! ## Words -/

namespace Text

/-- A word goes on with what is free of white space. -/
theorem isWord_append {a b : String} (ha : isWord a = true)
    (hb : ∀ ch ∈ b.toList, isWhiteSpace ch = false) : isWord (a ++ b) = true := by
  obtain ⟨hne, hchars⟩ := isWord_iff.1 ha
  refine isWord_iff.2 ⟨fun h => hne (String.append_eq_empty_iff.1 h).1, fun ch hch => ?_⟩
  rw [String.toList_append, List.mem_append] at hch
  exact hch.elim (hchars ch) (hb ch)

theorem isWhiteSpace_of_isDigit {ch : Char} (h : ch.isDigit = true) :
    isWhiteSpace ch = false := by
  have hrange : 48 ≤ ch.toNat ∧ ch.toNat ≤ 57 := by
    simpa [Char.isDigit, UInt32.le_iff_toNat_le] using h
  unfold isWhiteSpace
  simp only [Bool.or_eq_false_iff, Bool.and_eq_false_iff, decide_eq_false_iff_not,
    beq_eq_false_iff_ne]
  omega

/-- A number is written as a word. -/
theorem isWord_toString (n : Nat) : isWord (toString n) = true := by
  refine isWord_iff.2 ⟨fun hempty => ?_, fun ch hch => isWhiteSpace_of_isDigit ?_⟩
  · have hlist : Nat.toDigits 10 n = [] := by
      rw [← Nat.toList_repr, ← Nat.toString_eq_repr, hempty]
      rfl
    exact absurd hlist (Nat.toDigits_ne_nil)
  · rw [Nat.toString_eq_repr, Nat.toList_repr] at hch
    exact Nat.isDigit_of_mem_toDigits (by decide) (by decide) hch

end Text

/-! ## Subscriptions keep their names -/

/-- The subject and the queue group of a subscription can be sent. -/
structure Subscription.Named (s : Subscription) : Prop where
  subject : Subject.isValid s.subject = true
  queueGroup : ∀ group, s.queueGroup = some group → Subject.isValid group = true

/-- Whatever becomes of a subscription, its subject and its queue group stay. -/
theorem Subscription.Changes.names {s s' : Subscription} (h : s.Changes s') :
    s'.subject = s.subject ∧ s'.queueGroup = s.queueGroup := by
  cases h with
  | limit | invalidate | cancelWorkers => exact ⟨rfl, rfl⟩
  | @shift stopping _ _ h =>
    cases h with
    | hold | setHandler | turn | take | begin => exact ⟨rfl, rfl⟩
    | enable =>
      unfold Subscription.enable
      split <;> exact ⟨rfl, rfl⟩
    | disable =>
      unfold Subscription.disable
      split <;> exact ⟨rfl, rfl⟩
    | accept _ h =>
      obtain ⟨-, rfl⟩ := Subscription.enqueue_eq h
      exact ⟨rfl, rfl⟩
    | exit i =>
      unfold Subscription.exited
      dsimp only
      split <;> exact ⟨rfl, rfl⟩

namespace Connection

variable {exposed : Sid → Prop} {p : Permit} {c c' : Connection} {sid : Sid}

/-- What every subscription bears can be sent. -/
def Named (c : Connection) : Prop := ∀ sid s, c.subscription? sid = some s → s.Named

theorem Flow.named (h : c.Flow exposed c') (hc : c.Named) : c'.Named := by
  intro sid
  refine h.about (Q := fun o => ∀ s, o = some s → s.Named) (fun s hnew _ s' heq => ?_)
    (fun s s' hchanges hs s'' heq => ?_) (hc sid)
  · exact Option.some.inj heq ▸ ⟨hnew.subject, hnew.queueGroup⟩
  · obtain ⟨hsubject, hgroup⟩ := hchanges.names
    obtain rfl := Option.some.inj heq
    have hnamed := hs s rfl
    exact ⟨hsubject ▸ hnamed.subject, hgroup ▸ hnamed.queueGroup⟩

end Connection

/-! ## Frames -/

/-- Every name in a frame can be sent, or is a start followed by something that can. -/
def Frame.Proper (start : String) (f : Frame) : Prop :=
  ∀ name ∈ f.names, Subject.isValid name = true ∨
    ∃ rest, Subject.isValid rest = true ∧ name = start ++ rest

/-- What may be offered: proper frames, and answers. -/
def Permit.Emits (p : Permit) (start : String) (f : Frame) : Prop :=
  f.Proper start ∨ ∃ subject payload, p.answers subject ∧ f = .publish subject none payload

namespace Connection

variable {p : Permit} {c c' : Connection} {sid : Sid}

theorem Sendable.emits {f : Frame} (h : c.Sendable p f) : p.Emits c.inbox.base f := by
  cases h with
  | publish h => exact Or.inl fun name hname => Or.inl (List.mem_singleton.1 hname ▸ h)
  | answer h payload => exact Or.inr ⟨_, payload, h, rfl⟩
  | ask _ hsubject n =>
    refine Or.inl fun name hname => ?_
    rcases List.mem_cons.1 hname with rfl | hkey
    · exact Or.inl hsubject
    · rw [List.mem_singleton.1 hkey]
      exact Or.inr ⟨toString n, Text.isWord_toString n, rfl⟩
  | announce =>
    refine Or.inl fun name hname => Or.inr ⟨"*", by decide, ?_⟩
    rw [List.mem_singleton.1 hname]
    rfl
  | tell => exact Or.inl fun name hname => absurd hname List.not_mem_nil

theorem Named.proper {s : Subscription} (hc : c.Named) (hs : c.subscription? sid = some s)
    (start : String) : (Frame.subscribe sid s.subject s.queueGroup).Proper start := by
  intro name hname
  have hnamed := hc sid s hs
  rcases List.mem_cons.1 hname with rfl | hgroup
  · exact Or.inl hnamed.subject
  · exact Or.inl (hnamed.queueGroup name (Option.mem_toList.1 hgroup))

theorem proper_unsubscribe (sid : Sid) (max : Option Nat) (start : String) :
    (Frame.unsubscribe sid max).Proper start := fun _ h => absurd h List.not_mem_nil

/-- Whatever is done offers proper frames only, but for answers. -/
theorem Course.emits (h : c.Course p c') (hc : c.Named) :
    c.OffersOnly (p.Emits c.inbox.base) c' := by
  induction h with
  | refl c => exact .refl c
  | trans h _ ih ih' =>
    have hrest := ih' (h.flow.named hc)
    rw [h.flow.base] at hrest
    exact (ih hc).trans hrest
  | @log c e h =>
    refine .log c ?_
    cases e with
    | offered => exact h.elim
    | _ => rfl
  | @tell c e h =>
    refine OffersOnly.trans (.of_eq rfl) (.log { c with counts := c.counts.told e } ?_)
    cases e with
    | offered => exact h.elim
    | _ => rfl
  | refuse c =>
    exact OffersOnly.trans (.of_eq rfl)
      (.log { c with counts := c.counts.dropped .queueClosed } rfl)
  | @register c s =>
    have hadded : OffersOnly (p.Emits c.inbox.base) c { c with
        issuedSids := s.sid
        subscriptions := c.subscriptions ++ [s]
        table := c.table ++ [s.sid] } := .of_eq rfl
    exact hadded.trans (.log _ rfl)
  | send h hcourse _ verdict outbound ih =>
    exact (ih hc).trans (.offered _ h.emits verdict outbound)
  | @withdraw c c' sid s h _ _ _ _ verdict outbound ih =>
    have hinvalidate : c.Flow p.ends (c.invalidate sid) := .invalidate c h
    have hoffers : OffersOnly (p.Emits c.inbox.base) c (c.invalidate sid) := .of_eq rfl
    exact (hoffers.trans (ih (hinvalidate.named hc))).trans
      (.offered c' (Or.inl (proper_unsubscribe sid none _)) verdict outbound)
  | @start c c' sid s hs _ _ _ _ verdict outbound ih =>
    have henable : c.Flow p.ends (c.enable sid).2 := flow_enable c sid
    have hoffers := ih (henable.named hc)
    rw [henable.base] at hoffers
    have hsent : OffersOnly (p.Emits c.inbox.base) c (c'.offered
        { frame := .subscribe sid s.subject s.queueGroup } verdict outbound) :=
      ((OffersOnly.enable c sid).trans hoffers).trans
        (.offered c' (Or.inl (hc.proper hs _)) verdict outbound)
    cases verdict with
    | ok => exact hsent
    | error => exact hsent.trans (.disable _ sid)
  | @startDetached c sid => exact (OffersOnly.enable c sid).trans (.disable _ sid)
  | @close c c' _ _ _ ih =>
    have hmarked : OffersOnly (p.Emits c.inbox.base) c
        { c with closed := true, registry := c.registry.cancelAll.2 } := .of_eq rfl
    exact (hmarked.trans (ih hc)).trans (.of_eq rfl)
  | aside | consult | sweep | shift | limit | herald | enrol | forgo | detach => exact .of_eq rfl

/-! ## Runs -/

/-- The reply subjects of an inbox can be sent, unless what it was made of holds white space. -/
theorem isWord_base_append {start token rest : String} (hrest : Text.isWord rest = true)
    (h : ∀ ch ∈ (start ++ token).toList, Text.isWhiteSpace ch = false) :
    Text.isWord ((Inbox.create start token).base ++ rest) = true := by
  refine Text.isWord_append (Text.isWord_iff.2 ⟨fun hempty => ?_, fun ch hch => ?_⟩)
    (Text.isWord_iff.1 hrest).2
  · have hdot := (String.append_eq_empty_iff.1 hempty).2
    exact absurd hdot (by decide)
  · have hdot := (Text.isWord_iff.1 (by decide : Text.isWord "." = true)).2
    simp only [Inbox.create, String.toList_append, List.mem_append] at hch h
    rcases hch with ((hch | hch) | hch) | hch
    · exact h ch (Or.inl hch)
    · exact hdot ch hch
    · exact h ch (Or.inr hch)
    · exact hdot ch hch

/-- Along every run over a transport that reacts to frames and may reject any of them, whatever is
done next: no subject or queue group in a frame that is then offered is empty or holds white space,
except for reply subjects of the connection when the start of its inbox, which anybody may choose, or
the token in it holds white space, and except for an answer of a handler, whose subject the sender of
the message chose. -/
theorem names_valid (gate : Gate) (o : Session.Opening) (id : Nat) (clock : Instant) (handle : Nat)
    (moves : List Move) (move : Move) :
    let c := (o.connect id clock handle).runOver (gated gate) moves
    ∃ new, (c.performOver (gated gate) move).traffic = c.traffic ++ new ∧ ∀ offer ∈ new,
      (∀ name ∈ offer.1.names,
        (name ≠ "" ∧ ∀ ch ∈ name.toList, Text.isWhiteSpace ch = false) ∨
        (c.inbox.owns name = true ∧
          ∃ ch ∈ (o.config.inboxStart ++ o.token).toList, Text.isWhiteSpace ch = true)) ∨
      ∃ subject payload, c.answering? move = some subject ∧
        offer.1 = .publish subject none payload := by
  intro c
  have hflow : (o.connect id clock handle).Flow (fun _ => True) c := flow_gated gate _ moves
  have hnamed : c.Named := hflow.named fun sid s hs => by cases hs
  have hbase : c.inbox.base = (Inbox.create o.config.inboxStart o.token).base := hflow.base
  let p : Permit := { Permit.all with answers := fun subject => c.answering? move = some subject }
  have hallows : c.Allows p move := { allows_all c move with answers := fun _ h => h }
  have hcourse : c.Course p (c.performOver (gated gate) move) :=
    course_performOver (sends_gated gate) (drifts_gated gate) ⟨permits_all c, permits_all c⟩ hallows
  obtain ⟨new, hnew, hemits⟩ := hcourse.emits hnamed
  refine ⟨new, hnew, fun offer ho => (hemits offer ho).imp_left fun hproper name hname => ?_⟩
  rcases hproper name hname with hvalid | ⟨rest, hrest, rfl⟩
  · exact Or.inl (Text.isWord_iff.1 hvalid)
  by_cases hclean : ∀ ch ∈ (o.config.inboxStart ++ o.token).toList, Text.isWhiteSpace ch = false
  · rw [hbase]
    exact Or.inl (Text.isWord_iff.1 (isWord_base_append hrest hclean))
  · refine Or.inr ⟨Inbox.owns_iff.2 ⟨rest.toList, String.toList_append⟩, ?_⟩
    simpa using hclean

/-- The exception is real: a connection is built with a start that holds a space, and the first
request announces reply subjects with the space in them and asks for a reply on such a one. -/
theorem names_broken :
    let o : Session.Opening :=
      { config := { inboxStart := "a b" }, token := "0123456789abcdef0123456789abcdef" }
    let c := (o.connect 1 0 1).run [.request "x" .empty {}]
    o.config.check true = .ok () ∧ c.accepted =
      [.subscribe 0 "a b.0123456789abcdef0123456789abcdef.*" none,
        .publish "x" (some "a b.0123456789abcdef0123456789abcdef.1") .empty] ∧
      ¬∀ frame ∈ c.accepted, ∀ name ∈ frame.names,
        name ≠ "" ∧ ∀ ch ∈ name.toList, Text.isWhiteSpace ch = false := by
  intro o c
  have haccepted : c.accepted = [.subscribe 0 "a b.0123456789abcdef0123456789abcdef.*" none,
      .publish "x" (some "a b.0123456789abcdef0123456789abcdef.1") .empty] := by decide +kernel
  refine ⟨rfl, haccepted, fun h => ?_⟩
  rw [haccepted] at h
  have hname := (h _ List.mem_cons_self _ List.mem_cons_self).2 ' ' (by decide)
  exact absurd hname (by decide)

end Connection

end PubSub
