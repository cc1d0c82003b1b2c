import PubSub.Router.History
import Mathlib.Data.List.Induction

/-!
# Whom a router feeds

A router knows of each pattern the id that was the last to announce it, as long as that one does not
withdraw (`Router.mem_interest_iff`). So a published message goes to somebody who is live and whose
pattern covers its subject, if somebody is who was also the last to announce that pattern. It goes to
nobody who withdrew. But an id whose pattern was announced again by another one is forgotten for good:
when the other one withdraws, nobody is known to listen (`Router.interest_lost`).

## Main results

- `Router.live_concat`, `Router.announcer?_concat` — what one frame more does to who is live, and to
  who was the last to announce a pattern
- `Router.mem_interest_iff` — what the router knows after any frames
- `Router.feeds_live_interest` — what becomes of a published message
-/

namespace PubSub.Router

variable {frames : List Frame} {frame : Frame} {sid : Sid} {pattern : String}

/-! ## One frame more -/

/-- Something in a list with one more at its end is that one, or stood in the list before. -/
theorem split_concat {β : Type} {l before later : List β} {a x : β}
    (h : l ++ [a] = before ++ x :: later) :
    a = x ∨ ∃ later', later = later' ++ [a] ∧ l = before ++ x :: later' := by
  cases later using List.reverseRecOn with
  | nil =>
    obtain ⟨-, heq⟩ := List.append_inj' h rfl
    exact Or.inl (List.cons.inj heq).1
  | append_singleton later' b =>
    have h' : l ++ [a] = (before ++ x :: later') ++ [b] := by simpa using h
    obtain ⟨rfl, heq⟩ := List.append_inj' h' rfl
    obtain ⟨rfl, -⟩ := List.cons.inj heq
    exact Or.inr ⟨later', rfl, rfl⟩

/-- Somebody is live after one frame more that is announced by it, or was live before and is not
withdrawn by it. -/
theorem live_concat : Live (frames ++ [frame]) sid pattern ↔
    (∃ group, frame = .subscribe sid pattern group) ∨
      Live frames sid pattern ∧ frame ≠ .unsubscribe sid none := by
  constructor
  · rintro ⟨group, before, later, heq, hkept⟩
    rcases split_concat heq with rfl | ⟨later', rfl, rfl⟩
    · exact Or.inl ⟨group, rfl⟩
    · rw [List.mem_append, List.mem_singleton, not_or] at hkept
      exact Or.inr ⟨⟨group, before, later', rfl, hkept.1⟩, Ne.symm hkept.2⟩
  · rintro (⟨group, rfl⟩ | ⟨⟨group, before, later, rfl, hkept⟩, hne⟩)
    · exact ⟨group, frames, [], rfl, nofun⟩
    · refine ⟨group, before, later ++ [frame], by simp, ?_⟩
      rw [List.mem_append, List.mem_singleton, not_or]
      exact ⟨hkept, Ne.symm hne⟩

theorem announcer?_concat : announcer? (frames ++ [frame]) pattern =
    (frame.announces? pattern).or (announcer? frames pattern) := by
  simp only [announcer?, List.filterMap_append, List.getLast?_append]
  cases h : frame.announces? pattern <;> simp [h]

theorem after_concat : after (frames ++ [frame]) = ((after frames).route frame).2 :=
  List.foldl_append

/-! ## What the router knows -/

/-- The router knows of each pattern the id that was the last to announce it, unless that one has
withdrawn. -/
theorem mem_interest_iff (frames : List Frame) (sid : Sid) (pattern : String) :
    (pattern, sid) ∈ (after frames).interest ↔
      Live frames sid pattern ∧ announcer? frames pattern = some sid := by
  induction frames using List.reverseRecOn with
  | nil =>
    constructor
    · intro h
      cases h
    · rintro ⟨-, h⟩
      cases h
  | append_singleton frames frame ih =>
    rw [after_concat, live_concat, announcer?_concat]
    cases frame with
    | subscribe sid' subject group =>
      simp only [route, learn, List.mem_append, List.mem_filter, List.mem_singleton, ih,
        Frame.announces?, bne_iff_ne, Prod.mk.injEq]
      by_cases h : subject = pattern
      · -- whoever announced the pattern before is forgotten
        subst h
        simp only [ne_eq, not_true_eq_false, and_false, false_or, true_and, if_true,
          Option.some_or, Option.some.injEq]
        constructor
        · rintro rfl
          exact ⟨Or.inl ⟨group, rfl⟩, rfl⟩
        · rintro ⟨-, rfl⟩
          rfl
      · have h' : pattern ≠ subject := Ne.symm h
        simp [h, h']
    | unsubscribe sid' max =>
      cases max with
      | none =>
        simp only [route, forget, List.mem_filter, ih, Frame.announces?, bne_iff_ne]
        simp [and_right_comm, eq_comm]
      | some max => simp [route, ih, Frame.announces?]
    | publish subject replyTo payload =>
      have hsame : ((after frames).route (.publish subject replyTo payload)).2 = after frames := by
        simp only [route]
        split <;> rfl
      simp [hsame, ih, Frame.announces?]

/-- A message that somebody known may listen to goes to one of those. -/
theorem listener?_of_mem {r : Router} {subject : String} (hmem : (pattern, sid) ∈ r.interest)
    (hcovers : Subject.matchesPattern pattern subject = true) :
    ∃ sid' pattern', (pattern', sid') ∈ r.interest ∧
      Subject.matchesPattern pattern' subject = true ∧ r.listener? subject = some sid' := by
  cases hfound : r.interest.find? fun entry => Subject.matchesPattern entry.1 subject with
  | none =>
    have hnone := List.find?_eq_none.1 hfound _ hmem
    exact absurd hcovers hnone
  | some entry =>
    obtain ⟨pattern', sid'⟩ := entry
    have hmatch := List.find?_some hfound
    refine ⟨sid', pattern', List.mem_of_find?_eq_some hfound, hmatch, ?_⟩
    rw [listener?, hfound, Option.map_some]

theorem listener?_eq_none {r : Router} {subject : String}
    (h : ∀ sid pattern, (pattern, sid) ∈ r.interest →
      ¬Subject.matchesPattern pattern subject = true) : r.listener? subject = none := by
  rw [listener?, Option.map_eq_none_iff, List.find?_eq_none]
  intro entry hmem
  exact h entry.2 entry.1 hmem

/-- A message is published after some frames, and the router goes through what it knows in whatever
order. If somebody who is live and whose pattern covers the subject was the last to announce that
pattern, then the message goes to such a one as it is; if not, a request is answered by the signal that
nobody listens, and nothing is sent otherwise. So a message goes to somebody who is live and whose
pattern covers the subject, and the signal is given only when there is nobody, as long as this holds of
every pattern: while anybody is live for it, the last to announce it is. -/
theorem feeds_live_interest (frames : List Frame) (r : Router)
    (hr : r.interest.Perm (after frames).interest) (subject : String) (replyTo : Option String)
    (payload : ByteArray) :
    let answer := (r.route (.publish subject replyTo payload)).1
    let Covers := fun (sid : Sid) (pattern : String) =>
      Live frames sid pattern ∧ Subject.matchesPattern pattern subject = true
    ((∃ sid pattern, Covers sid pattern ∧ announcer? frames pattern = some sid) →
      ∃ sid pattern, Covers sid pattern ∧ announcer? frames pattern = some sid ∧
        answer = some { subject, sid, replyTo, payload }) ∧
    ((¬∃ sid pattern, Covers sid pattern ∧ announcer? frames pattern = some sid) →
      answer = replyTo.map Message.noResponders) ∧
    ((∀ sid pattern, Live frames sid pattern →
        ∃ sid', announcer? frames pattern = some sid' ∧ Live frames sid' pattern) →
      ((∃ sid pattern, Covers sid pattern) →
        ∃ sid pattern, Covers sid pattern ∧ answer = some { subject, sid, replyTo, payload }) ∧
      ((¬∃ sid pattern, Covers sid pattern) → answer = replyTo.map Message.noResponders)) := by
  intro answer Covers
  have hknown : ∀ sid pattern, (pattern, sid) ∈ r.interest ↔
      Live frames sid pattern ∧ announcer? frames pattern = some sid := by
    intro sid pattern
    rw [hr.mem_iff, mem_interest_iff]
  have hfed : (∃ sid pattern, Covers sid pattern ∧ announcer? frames pattern = some sid) →
      ∃ sid pattern, Covers sid pattern ∧ announcer? frames pattern = some sid ∧
        answer = some { subject, sid, replyTo, payload } := by
    rintro ⟨sid, pattern, ⟨hlive, hcovers⟩, hlast⟩
    obtain ⟨sid', pattern', hmem, hcovers', hfound⟩ :=
      listener?_of_mem ((hknown sid pattern).2 ⟨hlive, hlast⟩) hcovers
    obtain ⟨hlive', hlast'⟩ := (hknown sid' pattern').1 hmem
    refine ⟨sid', pattern', ⟨hlive', hcovers'⟩, hlast', ?_⟩
    simp only [answer, route, hfound]
  have hsignal : (¬∃ sid pattern, Covers sid pattern ∧ announcer? frames pattern = some sid) →
      answer = replyTo.map Message.noResponders := by
    intro hnobody
    have hfound : r.listener? subject = none := by
      apply listener?_eq_none
      intro sid pattern hmem hcovers
      obtain ⟨hlive, hlast⟩ := (hknown sid pattern).1 hmem
      exact hnobody ⟨sid, pattern, ⟨hlive, hcovers⟩, hlast⟩
    simp only [answer, route, hfound]
  refine ⟨hfed, hsignal, fun hkept => ⟨?_, ?_⟩⟩
  · rintro ⟨sid, pattern, hlive, hcovers⟩
    obtain ⟨sid', hlast', hlive'⟩ := hkept sid pattern hlive
    obtain ⟨sid'', pattern'', hcovers'', -, hanswer⟩ :=
      hfed ⟨sid', pattern, ⟨hlive', hcovers⟩, hlast'⟩
    exact ⟨sid'', pattern'', hcovers'', hanswer⟩
  · intro hnobody
    apply hsignal
    rintro ⟨sid, pattern, hcovers, -⟩
    exact hnobody ⟨sid, pattern, hcovers⟩

/-- The theorem applies to a router that goes through what it knows backwards: of the two ids that
share a subject the last to announce it is live, and the other pattern has one id alone. So a request
goes to somebody who is live. -/
theorem feeds_live_interest_shared :
    let frames : List Frame := [.subscribe 1 "a" none, .subscribe 2 "b.*" none, .subscribe 3 "a" none]
    let r : Router := { interest := [("a", 3), ("b.*", 2)] }
    let Covers := fun (sid : Sid) (pattern : String) =>
      Live frames sid pattern ∧ Subject.matchesPattern pattern "a" = true
    r.interest.Perm (after frames).interest ∧
      (∃ sid pattern, Covers sid pattern ∧ announcer? frames pattern = some sid) ∧
      (∃ sid pattern, Covers sid pattern ∧ announcer? frames pattern = some sid ∧
        (r.route (.publish "a" (some "inbox") .empty)).1 =
          some { subject := "a", sid := sid, replyTo := some "inbox" }) ∧
      (∀ sid pattern, Live frames sid pattern →
        ∃ sid', announcer? frames pattern = some sid' ∧ Live frames sid' pattern) ∧
      ∃ sid pattern, Covers sid pattern ∧
        (r.route (.publish "a" (some "inbox") .empty)).1 =
          some { subject := "a", sid := sid, replyTo := some "inbox" } := by
  intro frames r Covers
  have hafter : (after frames).interest = [("b.*", 2), ("a", 3)] := by decide +kernel
  have hperm : r.interest.Perm (after frames).interest := by
    rw [hafter]
    exact List.Perm.swap _ _ []
  have hthird : Live frames 3 "a" :=
    ⟨none, [.subscribe 1 "a" none, .subscribe 2 "b.*" none], [], rfl, nofun⟩
  have hsecond : Live frames 2 "b.*" := ⟨none, [.subscribe 1 "a" none], _, rfl, by decide⟩
  have hlast : announcer? frames "a" = some 3 := by decide +kernel
  have hcovers : Covers 3 "a" := ⟨hthird, by decide +kernel⟩
  have hkept : ∀ sid pattern, Live frames sid pattern →
      ∃ sid', announcer? frames pattern = some sid' ∧ Live frames sid' pattern := by
    rintro sid pattern ⟨group, before, later, heq, -⟩
    have hmem : Frame.subscribe sid pattern group ∈ frames := by
      rw [heq]
      exact List.mem_append_right _ List.mem_cons_self
    simp only [frames, List.mem_cons, Frame.subscribe.injEq, List.not_mem_nil, or_false] at hmem
    rcases hmem with ⟨-, rfl, -⟩ | ⟨-, rfl, -⟩ | ⟨-, rfl, -⟩
    · exact ⟨3, hlast, hthird⟩
    · exact ⟨2, by decide +kernel, hsecond⟩
    · exact ⟨3, hlast, hthird⟩
  obtain ⟨hfed, -, hclaim⟩ := feeds_live_interest frames r hperm "a" (some "inbox") .empty
  have hsome : ∃ sid pattern, Covers sid pattern ∧ announcer? frames pattern = some sid :=
    ⟨3, "a", hcovers, hlast⟩
  exact ⟨hperm, hsome, hfed hsome, hkept, (hclaim hkept).1 ⟨3, "a", hcovers⟩⟩

/-- An id whose subject was announced by another one, which then withdraws: it is live and its pattern
covers the subject, but a request is answered by the signal that nobody listens. -/
theorem interest_lost :
    let frames : List Frame := [.subscribe 1 "a" none, .subscribe 2 "a" none, .unsubscribe 2 none]
    let answer := ((after frames).route (.publish "a" (some "inbox") .empty)).1
    (∃ sid pattern, Live frames sid pattern ∧ Subject.matchesPattern pattern "a" = true) ∧
      answer = some (Message.noResponders "inbox") ∧
      ¬∃ sid pattern, (Live frames sid pattern ∧ Subject.matchesPattern pattern "a" = true) ∧
        answer = some { subject := "a", sid := sid, replyTo := some "inbox" } := by
  intro frames answer
  have hanswer : answer = some (Message.noResponders "inbox") := by
    decide +kernel
  refine ⟨⟨1, "a", ⟨none, [], _, rfl, by decide⟩, by decide +kernel⟩, hanswer, ?_⟩
  rintro ⟨sid, pattern, -, h⟩
  rw [hanswer] at h
  have hsubject : "inbox" = "a" := congrArg Message.subject (Option.some.inj h)
  exact absurd hsubject (by decide)

end PubSub.Router
