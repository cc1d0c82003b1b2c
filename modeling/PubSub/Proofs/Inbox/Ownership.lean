import PubSub.Inbox.History
import PubSub.Subject.Tokens
import Mathlib.Data.List.Nodup

/-!
# Inboxes and the patterns that cover them

A pattern covers a subject when it does so token by token (`Subject.matchesPattern_iff_tokens`), and the
pattern of an inbox covers what the inbox owns up to one more token. The reply subjects that an inbox
hands out are among those, each of them once, and inboxes that differ in their tokens have none in
common.

## Main results

- `Subject.matchesPattern_iff` — a pattern covers itself, or what goes on after its stem
- `Subject.matchesPattern_iff_tokens` — the same read token by token
- `Inbox.subject_injective` — the numbers of an inbox make different subjects
- `Inbox.matchesPattern_wildcard_iff` — what the pattern of an inbox covers
- `Inbox.owned_once_and_apart` — the three tests on reply subjects agree
-/

namespace PubSub

/-! ## Tokens -/

namespace Subject

variable {l t : List Char} {front : List (List Char)} {pattern subject : String}

/-- No token has a dot in it. -/
theorem not_mem_of_mem_splitOn (h : t ∈ l.splitOn '.') : '.' ∉ t := by
  induction l generalizing t with
  | nil =>
    rw [List.splitOn_nil, List.mem_singleton] at h
    exact h ▸ List.not_mem_nil
  | cons c l ih =>
    obtain ⟨head, tail, heq⟩ := List.exists_cons_of_ne_nil (List.splitOn_ne_nil '.' l)
    rw [heq] at ih
    rw [List.splitOn_cons_eq_if_modifyHead, heq] at h
    split at h
    · rcases List.mem_cons.1 h with rfl | hmem
      · exact List.not_mem_nil
      · exact ih hmem
    · next hc =>
      rcases List.mem_cons.1 h with rfl | hmem
      · have hne : '.' ≠ c := fun heq => hc (beq_iff_eq.2 heq.symm)
        rw [List.mem_cons, not_or]
        exact ⟨hne, ih List.mem_cons_self⟩
      · exact ih (List.mem_cons_of_mem _ hmem)

/-- There is always a last token. -/
theorem exists_splitOn_eq_concat (l : List Char) :
    ∃ front t, l.splitOn '.' = front ++ [t] :=
  ⟨_, _, (List.dropLast_concat_getLast (List.splitOn_ne_nil '.' l)).symm⟩

/-- Tokens in front of a last one are each followed by a dot. -/
theorem intercalate_concat (front : List (List Char)) (t : List Char) :
    ['.'].intercalate (front ++ [t]) = front.flatMap (· ++ ['.']) ++ t := by
  induction front with
  | nil => simp [List.intercalate_singleton]
  | cons u front ih =>
    rw [List.cons_append, List.intercalate_cons_of_ne_nil (by simp), ih]
    simp

/-- What the tokens of a list are, the last one apart. -/
theorem splitOn_eq_concat_iff : l.splitOn '.' = front ++ [t] ↔
    l = front.flatMap (· ++ ['.']) ++ t ∧ '.' ∉ t ∧ ∀ u ∈ front, '.' ∉ u := by
  constructor
  · intro h
    have hdots : ∀ u ∈ front ++ [t], '.' ∉ u := fun u hu => not_mem_of_mem_splitOn (h ▸ hu)
    refine ⟨?_, hdots t (by simp), fun u hu => hdots u (List.mem_append_left _ hu)⟩
    rw [← intercalate_concat, ← h, List.intercalate_splitOn]
  · rintro ⟨rfl, ht, hfront⟩
    rw [← intercalate_concat]
    refine List.splitOn_intercalate '.' (fun u hu => ?_) (by simp)
    rcases List.mem_append.1 hu with hu | hu
    · exact hfront u hu
    · exact List.mem_singleton.1 hu ▸ ht

/-! ## What a pattern covers -/

/-- A pattern covers itself, and one that ends in a star covers whatever begins with its stem and goes
on for the rest of one token. -/
theorem matchesPattern_iff : matchesPattern pattern subject = true ↔
    pattern = subject ∨ ∃ stem rest, pattern.toList = stem ++ ['*'] ∧
      subject.toList = stem ++ rest ∧ rest ≠ [] ∧ '.' ∉ rest := by
  unfold matchesPattern
  split
  · next hlast =>
    obtain ⟨stem, hstem⟩ := List.getLast?_eq_some_iff.1 hlast
    rw [hstem, List.dropLast_concat]
    constructor
    · intro h
      split at h
      · next rest hrest =>
        refine Or.inr ⟨stem, rest, rfl, afterStem_eq_some_iff.1 hrest, ?_⟩
        simpa using h
      · cases h
    · rintro (rfl | ⟨stem', rest, heq, hsubject, hne, hdot⟩)
      · rw [hstem, afterStem_eq_some_iff.2 rfl]
        rfl
      · obtain ⟨rfl, -⟩ := List.append_inj' heq rfl
        rw [afterStem_eq_some_iff.2 hsubject]
        simpa using ⟨hne, hdot⟩
  · next hlast =>
    rw [beq_iff_eq]
    refine ⟨Or.inl, ?_⟩
    rintro (h | ⟨stem, rest, heq, -⟩)
    · exact h
    · exact absurd (by rw [heq, List.getLast?_concat]) hlast

/-- A pattern covers a subject exactly when their tokens are equal but for the last, and its last token
stands for the last one of the subject. -/
theorem matchesPattern_iff_tokens : matchesPattern pattern subject = true ↔
    ∃ front p t, tokens pattern = front ++ [p] ∧ tokens subject = front ++ [t] ∧
      TokenCovers p t := by
  rw [matchesPattern_iff]
  constructor
  · rintro (rfl | ⟨stem, rest, hpattern, hsubject, hne, hdot⟩)
    · obtain ⟨front, t, heq⟩ := exists_splitOn_eq_concat pattern.toList
      exact ⟨front, t, t, heq, heq, Or.inl rfl⟩
    · -- the stem ends within the last token of both
      obtain ⟨front, u, heq⟩ := exists_splitOn_eq_concat stem
      obtain ⟨rfl, hu, hfront⟩ := splitOn_eq_concat_iff.1 heq
      refine ⟨front, u ++ ['*'], u ++ rest, ?_, ?_, Or.inr ⟨u, rest, rfl, hne, rfl⟩⟩
      · exact splitOn_eq_concat_iff.2 ⟨by rw [hpattern, List.append_assoc], by simp [hu], hfront⟩
      · exact splitOn_eq_concat_iff.2 ⟨by rw [hsubject, List.append_assoc], by simp [hu, hdot], hfront⟩
  · rintro ⟨front, p, t, hp, ht, hcovers⟩
    obtain ⟨hpattern, -, -⟩ := splitOn_eq_concat_iff.1 hp
    obtain ⟨hsubject, hdot, -⟩ := splitOn_eq_concat_iff.1 ht
    rcases hcovers with rfl | ⟨stem, rest, rfl, hne, rfl⟩
    · exact Or.inl (String.toList_injective (hpattern.trans hsubject.symm))
    · refine Or.inr ⟨front.flatMap (· ++ ['.']) ++ stem, rest, ?_, ?_, hne, ?_⟩
      · rw [hpattern, List.append_assoc]
      · rw [hsubject, List.append_assoc]
      · exact fun h => hdot (List.mem_append_right _ h)

end Subject

/-! ## What an inbox owns -/

namespace Inbox

variable {inbox inbox' : Inbox} {s : String}

theorem subject_injective (inbox : Inbox) : Function.Injective inbox.subject := by
  intro m n h
  have htext : toString m = toString n := (String.append_right_inj inbox.base).1 h
  rw [Nat.toString_eq_ofList_toDigits, Nat.toString_eq_ofList_toDigits, String.ofList_inj] at htext
  -- the number can be read back from its digits
  have hread := congrArg (fun digits => Nat.ofDigitChars 10 digits 0) htext
  simpa only [Nat.ofDigitChars_ten_toDigits] using hread

/-- The pattern of an inbox covers what begins like its subjects and goes on for the rest of one
token. -/
theorem matchesPattern_wildcard_iff : Subject.matchesPattern inbox.wildcard s = true ↔
    ∃ rest, rest ≠ "" ∧ '.' ∉ rest.toList ∧ s = inbox.base ++ rest := by
  have hwildcard : inbox.wildcard.toList = inbox.base.toList ++ ['*'] := String.toList_append
  rw [Subject.matchesPattern_iff]
  constructor
  · rintro (rfl | ⟨stem, rest, hstem, hs, hne, hdot⟩)
    · exact ⟨"*", by decide, by decide, rfl⟩
    · obtain ⟨rfl, -⟩ := List.append_inj' (hwildcard.symm.trans hstem) rfl
      refine ⟨String.ofList rest, by simpa using hne, by simpa using hdot, ?_⟩
      exact String.toList_injective (by simpa using hs)
  · rintro ⟨rest, hne, hdot, rfl⟩
    exact Or.inr ⟨_, rest.toList, hwildcard, String.toList_append, by simpa using hne, hdot⟩

theorem owns_of_matchesPattern (h : Subject.matchesPattern inbox.wildcard s = true) :
    inbox.owns s = true := by
  obtain ⟨rest, -, -, rfl⟩ := matchesPattern_wildcard_iff.1 h
  exact owns_iff.2 ⟨rest.toList, String.toList_append⟩

/-- The pattern of an inbox covers every subject of it: a number is written without a dot. -/
theorem matchesPattern_subject (inbox : Inbox) (n : Nat) :
    Subject.matchesPattern inbox.wildcard (inbox.subject n) = true := by
  refine matchesPattern_wildcard_iff.2 ⟨toString n, fun hempty => ?_, fun hdot => ?_, rfl⟩
  · have hdigits := congrArg String.toList hempty
    rw [Nat.toString_eq_repr, Nat.toList_repr] at hdigits
    exact Nat.toDigits_ne_nil hdigits
  · rw [Nat.toString_eq_repr, Nat.toList_repr] at hdot
    exact absurd (Nat.isDigit_of_mem_toDigits (by decide) (by decide) hdot) (by decide)

/-- An inbox hands out its subjects in the order of their numbers. -/
theorem handedOut_eq (inbox : Inbox) (n : Nat) :
    inbox.handedOut n = (List.range' (inbox.issued + 1) n).map inbox.subject := by
  induction n generalizing inbox with
  | zero => rfl
  | succ n ih =>
    rw [handedOut, ih, List.range'_succ, List.map_cons]
    rfl

/-- Beginnings of one length that differ have nothing in common that goes on from them. -/
theorem not_owns_of_owns (hlength : inbox.base.length = inbox'.base.length)
    (hne : inbox.base ≠ inbox'.base) (h : inbox'.owns s = true) : inbox.owns s = false := by
  rw [← Bool.not_eq_true]
  intro howns
  obtain ⟨rest, hrest⟩ := owns_iff.1 howns
  obtain ⟨rest', hrest'⟩ := owns_iff.1 h
  obtain ⟨heq, -⟩ := List.append_inj (hrest.symm.trans hrest') hlength
  exact hne (String.toList_injective heq)

/-- Inboxes that differ only in their tokens own nothing in common. -/
theorem not_owns_of_token_ne {start token token' : String} (htoken : IsToken token) (htoken' : IsToken token')
    (hne : token' ≠ token) (h : (create start token').owns s = true) :
    (create start token).owns s = false := by
  refine not_owns_of_owns ?_ (fun heq => hne ?_) h
  · simp [create, htoken.1, htoken'.1]
  · simpa [create] using heq.symm

/-- The pattern of an inbox covers exactly what begins like its subjects and goes on for the rest of
one token, and the inbox owns all that. So it owns every subject it ever hands out, and its pattern
covers them; however many those are, no two are equal. Of two inboxes with the same start and different
tokens neither owns what the other owns, nor does its pattern cover it; so neither has to do with what
the other hands out. In general a pattern covers a subject exactly when they have the same tokens but
for the last, and the last one of the pattern is that of the subject or ends in a star, and that of the
subject goes on after what stands in front of the star. -/
theorem owned_once_and_apart (start token : String) :
    let inbox := create start token
    (∀ s, Subject.matchesPattern inbox.wildcard s = true ↔
      ∃ rest, rest ≠ "" ∧ '.' ∉ rest.toList ∧ s = inbox.base ++ rest) ∧
    (∀ s, Subject.matchesPattern inbox.wildcard s = true → inbox.owns s = true) ∧
    (∀ n, ∀ s ∈ inbox.handedOut n,
      inbox.owns s = true ∧ Subject.matchesPattern inbox.wildcard s = true) ∧
    (∀ n, (inbox.handedOut n).length = n ∧ (inbox.handedOut n).Nodup) ∧
    (∀ token', IsToken token → IsToken token' → token' ≠ token →
      let other := create start token'
      (∀ s, other.owns s = true → inbox.owns s = false ∧
        Subject.matchesPattern inbox.wildcard s = false) ∧
      ∀ n, ∀ s ∈ other.handedOut n, inbox.owns s = false ∧
        Subject.matchesPattern inbox.wildcard s = false) ∧
    ∀ pattern subject, Subject.matchesPattern pattern subject = true ↔
      ∃ front p t, Subject.tokens pattern = front ++ [p] ∧ Subject.tokens subject = front ++ [t] ∧
        Subject.TokenCovers p t := by
  intro inbox
  have hcovered : ∀ (i : Inbox) (n : Nat), ∀ s ∈ i.handedOut n,
      i.owns s = true ∧ Subject.matchesPattern i.wildcard s = true := by
    intro i n s hs
    rw [handedOut_eq] at hs
    obtain ⟨k, -, rfl⟩ := List.mem_map.1 hs
    exact ⟨i.owns_subject k, i.matchesPattern_subject k⟩
  refine ⟨fun s => matchesPattern_wildcard_iff, fun s => owns_of_matchesPattern, hcovered inbox,
    fun n => ⟨?_, ?_⟩, fun token' htoken htoken' hne => ?_,
    fun pattern subject => Subject.matchesPattern_iff_tokens⟩
  · simp [handedOut_eq]
  · rw [handedOut_eq]
    exact (List.nodup_map_iff inbox.subject_injective).2 List.nodup_range'
  · have hapart : ∀ s, (create start token').owns s = true → inbox.owns s = false ∧
        Subject.matchesPattern inbox.wildcard s = false := by
      intro s hs
      have hnot : inbox.owns s = false := not_owns_of_token_ne htoken htoken' hne hs
      refine ⟨hnot, ?_⟩
      rw [← Bool.not_eq_true]
      intro hmatches
      rw [owns_of_matchesPattern hmatches] at hnot
      cases hnot
    exact ⟨hapart, fun n s hs => hapart s (hcovered _ n s hs).1⟩

/-- The theorem applies to two inboxes whose start ends in a star itself and whose tokens differ in
their last digit: what one of them hands out first is its own, and nothing to the other. -/
theorem owned_once_and_apart_star :
    let inbox := create "a.*" "0123456789abcdef0123456789abcdef"
    let other := create "a.*" "0123456789abcdef0123456789abcdee"
    let s := "a.*.0123456789abcdef0123456789abcdee.1"
    other.owns s = true ∧ Subject.matchesPattern other.wildcard s = true ∧
      inbox.owns s = false ∧ Subject.matchesPattern inbox.wildcard s = false := by
  intro inbox other s
  have hs : s ∈ other.handedOut 1 := by decide +kernel
  obtain ⟨-, -, hcovered, -⟩ := owned_once_and_apart "a.*" "0123456789abcdef0123456789abcdee"
  obtain ⟨-, -, -, -, hapart, -⟩ := owned_once_and_apart "a.*" "0123456789abcdef0123456789abcdef"
  have htoken : IsToken "0123456789abcdef0123456789abcdef" := ⟨by rfl, by simp⟩
  have htoken' : IsToken "0123456789abcdef0123456789abcdee" := ⟨by rfl, by simp⟩
  have hforeign := (hapart _ htoken htoken' (by decide)).2 1 s hs
  exact ⟨(hcovered 1 s hs).1, (hcovered 1 s hs).2, hforeign.1, hforeign.2⟩

end Inbox

end PubSub
