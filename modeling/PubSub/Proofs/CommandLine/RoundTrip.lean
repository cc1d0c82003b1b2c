import PubSub.CommandLine.Spelling
import Mathlib.Data.List.Nodup
import Mathlib.Data.List.TakeWhile

/-!
# Lines are read as they are written

A value that stands in an argument of its own is looked at only when the next option begins or the
line ends. So reading a line of options is accepting them one after the other
(`CommandLine.readAll_line`), however each of them is written. An option that was given is on record
from then on, and nothing on the line takes it off the record again, so a second one is never accepted.

## Main results

- `CommandLine.readNumber_toString` — a number is read back from its decimal digits
- `CommandLine.readAll_line` — a line of options is accepted option by option
- `CommandLine.Reader.Holding` — an option was given
- `CommandLine.reads_what_is_written` — what is read from a line, and options given twice
-/

namespace PubSub.CommandLine

/-! ## Numbers -/

theorem le_ofDigitChars (digits : List Char) (n : Nat) : n ≤ Nat.ofDigitChars 10 digits n := by
  induction digits generalizing n with
  | nil => exact Nat.le_refl n
  | cons c digits ih =>
    calc n ≤ 10 * n + (c.toNat - '0'.toNat) := by omega
      _ ≤ Nat.ofDigitChars 10 (c :: digits) n := ih _

/-- Digits are read as the number that they denote, as long as it is not too large. -/
theorem readDigits_eq_ok {digits : List Char} {n : Nat} (hdigits : ∀ c ∈ digits, c.isDigit = true)
    (hle : Nat.ofDigitChars 10 digits n ≤ greatest) :
    readDigits n digits = .ok (Nat.ofDigitChars 10 digits n) := by
  induction digits generalizing n with
  | nil => rfl
  | cons c digits ih =>
    have hc : c.isDigit = true := hdigits c List.mem_cons_self
    have hstep : n * 10 + (c.toNat - '0'.toNat) = 10 * n + (c.toNat - '0'.toNat) := by
      rw [Nat.mul_comm]
    -- what was read so far is not more than all of it
    have hsofar : 10 * n + (c.toNat - '0'.toNat) ≤ greatest :=
      Nat.le_trans (le_ofDigitChars digits _) hle
    rw [readDigits, if_pos hc, hstep, if_pos hsofar]
    exact ih (fun d hd => hdigits d (List.mem_cons_of_mem _ hd)) hle

theorem isDigit_of_mem_toString {n : Nat} {c : Char} (h : c ∈ (toString n).toList) :
    c.isDigit = true := by
  rw [Nat.toString_eq_repr, Nat.toList_repr] at h
  exact Nat.isDigit_of_mem_toDigits (by decide) (by decide) h

/-- A number is written as a digit, perhaps followed by more. -/
theorem exists_toList_toString (n : Nat) :
    ∃ c digits, (toString n).toList = c :: digits ∧ c.isDigit = true := by
  obtain ⟨c, digits, heq⟩ : ∃ c digits, (toString n).toList = c :: digits := by
    refine List.exists_cons_of_ne_nil ?_
    rw [Nat.toString_eq_repr, Nat.toList_repr]
    exact Nat.toDigits_ne_nil
  exact ⟨c, digits, heq, isDigit_of_mem_toString (heq ▸ List.mem_cons_self)⟩

/-- A number that is not too large is read back from its decimal digits. -/
theorem readNumber_toString {n : Nat} (h : n ≤ greatest) : readNumber (toString n) = .ok n := by
  have hread : readDigits 0 (toString n).toList = .ok n := by
    have hn : Nat.ofDigitChars 10 (toString n).toList 0 = n := by
      rw [Nat.toString_eq_repr, Nat.toList_repr, Nat.ofDigitChars_ten_toDigits]
    rw [readDigits_eq_ok (fun c => isDigit_of_mem_toString) (by rw [hn]; exact h), hn]
  obtain ⟨c, digits, heq, hc⟩ := exists_toList_toString n
  have hplus : c ≠ '+' := fun hc' => absurd hc (by rw [hc']; decide)
  unfold readNumber
  rw [heq] at hread ⊢
  split
  · next hnil => cases hnil
  · next hcons => exact absurd (List.cons.inj hcons).1 hplus
  · next hcons => exact absurd (List.cons.inj hcons).1 hplus
  · exact hread

/-! ## Arguments -/

variable {r r' : Reader} {field : Field} {stop : Stop}

theorem fieldOfLong?_name (field : Field) : fieldOfLong? field.name = some field := by
  cases field <;> rfl

theorem not_mem_name (field : Field) : '=' ∉ field.name.toList := by
  cases field <;> decide +kernel

theorem splitValue_name (field : Field) : splitValue field.name.toList = (field.name, none) := by
  have hname : ∀ c ∈ field.name.toList, (c != '=') = true := fun c hc =>
    bne_iff_ne.2 fun heq => not_mem_name field (heq ▸ hc)
  simp only [splitValue, List.dropWhile_eq_nil_iff.2 hname, List.takeWhile_eq_self_iff.2 hname,
    String.ofList_toList]

theorem splitValue_name_value (field : Field) (value : List Char) :
    splitValue (field.name.toList ++ '=' :: value) = (field.name, some (String.ofList value)) := by
  have hname : ∀ c ∈ field.name.toList, (c != '=') = true := fun c hc =>
    bne_iff_ne.2 fun heq => not_mem_name field (heq ▸ hc)
  have htake : (field.name.toList ++ '=' :: value).takeWhile (· != '=') = field.name.toList := by
    rw [List.takeWhile_append_of_pos hname]
    simp
  have hdrop : (field.name.toList ++ '=' :: value).dropWhile (· != '=') = '=' :: value := by
    rw [List.dropWhile_append_of_pos hname]
    simp
  simp only [splitValue, htake, hdrop, String.ofList_toList]

theorem readArgument_long (r : Reader) (field : Field) :
    readArgument r ("--" ++ field.name) = r.begin field := by
  have hlist : ("--" ++ field.name).toList = '-' :: '-' :: field.name.toList := String.toList_append
  simp only [readArgument, hlist, readLong, splitValue_name, fieldOfLong?_name]

theorem readArgument_longJoined (r : Reader) (field : Field) (value : String) :
    readArgument r ("--" ++ field.name ++ "=" ++ value) = r.give field value := by
  have hlist : ("--" ++ field.name ++ "=" ++ value).toList =
      '-' :: '-' :: (field.name.toList ++ '=' :: value.toList) := by
    simp [String.toList_append]
  simp only [readArgument, hlist, readLong, splitValue_name_value, fieldOfLong?_name,
    String.ofList_toList]

/-- One hyphen and the letter of an option lead to the short options. -/
theorem readArgument_letter (r : Reader) {letter : Char} (h : field.letter? = some letter)
    (value : String) :
    readArgument r ("-" ++ letter.toString ++ value) = readShort r letter value.toList := by
  have hlist : ("-" ++ letter.toString ++ value).toList = '-' :: letter :: value.toList := by
    simp [String.toList_append]
  have hletter : letter ≠ '-' := by
    cases field <;> cases h <;> decide
  rw [readArgument, hlist]
  split
  · next heq => exact absurd (List.cons.inj (List.cons.inj heq).2).1 hletter
  · next heq =>
    obtain ⟨rfl, rfl⟩ := List.cons.inj (List.cons.inj heq).2
    rfl
  · next hneither => exact absurd rfl (hneither letter value.toList)

/-- The letter of an option stands alone, before an equals sign and a value, or before a value. -/
theorem readArgument_short (r : Reader) {letter : Char} (h : field.letter? = some letter)
    (value : String) : readArgument r ("-" ++ letter.toString ++ value) =
      match value.toList with
      | [] => r.begin field
      | '=' :: text => r.give field (String.ofList text)
      | text => r.give field (String.ofList text) := by
  have hfield : (if letter = 'm' then some Field.messages
      else if letter = 't' then some .timeout else none) = some field := by
    cases field <;> cases h <;> rfl
  rw [readArgument_letter r h]
  unfold readShort
  dsimp only
  rw [hfield]
  split
  · next hsome hnil =>
    rw [hnil, Option.some.inj hsome]
  · next hsome hcons =>
    rw [hcons, Option.some.inj hsome]
    rfl
  · next hsome hnil hcons =>
    rw [Option.some.inj hsome]
    split
    · next hnil' => exact (hnil hnil').elim
    · next hcons' => exact (hcons _ hcons').elim
    · rfl
  · next hnone => cases hnone

/-- A number is a value when one is missing. -/
theorem readArgument_toString (r : Reader) (n : Nat) :
    readArgument r (toString n) = readPlain r (toString n) := by
  obtain ⟨c, digits, heq, hc⟩ := exists_toList_toString n
  have hhyphen : c ≠ '-' := fun hc' => absurd hc (by rw [hc']; decide)
  rw [readArgument, heq]
  split
  · next hcons => exact absurd (List.cons.inj hcons).1 hhyphen
  · next hcons => exact absurd (List.cons.inj hcons).1 hhyphen
  · rfl

theorem toString_ne_hyphens (n : Nat) : toString n ≠ "--" := by
  intro hn
  obtain ⟨c, digits, heq, hc⟩ := exists_toList_toString n
  rw [hn] at heq
  obtain rfl := (List.cons.inj heq).1
  exact absurd hc (by decide)

/-- An argument begins an option, whatever was read before. -/
def Begins (first : String) (field : Field) : Prop := ∀ r, readArgument r first = r.begin field

/-- An argument gives an option a value, whatever was read before. -/
def Gives (first : String) (field : Field) (value : String) : Prop :=
  ∀ r, readArgument r first = r.give field value

theorem begins_letter {letter : Char} (h : field.letter? = some letter) :
    Begins ("-" ++ letter.toString) field := by
  intro r
  have hread := readArgument_short r h ""
  rwa [String.append_empty] at hread

theorem gives_letterJoined {letter : Char} (h : field.letter? = some letter) (value : String) :
    Gives ("-" ++ letter.toString ++ "=" ++ value) field value := by
  intro r
  have hread := readArgument_short r h ("=" ++ value)
  have hlist : ("=" ++ value).toList = '=' :: value.toList := String.toList_append
  rw [hlist, ← String.append_assoc] at hread
  rw [hread]
  show r.give field (String.ofList value.toList) = _
  rw [String.ofList_toList]

/-- The first argument of an option either begins it or gives it a value at once. -/
theorem exists_first (spelling : Spelling field) (value : String) :
    ∃ first rest, spelling.arguments value = first :: rest ∧
      (Begins first field ∨ ∃ text, Gives first field text) := by
  cases spelling with
  | longSeparate => exact ⟨_, _, rfl, Or.inl (readArgument_long · field)⟩
  | longJoined => exact ⟨_, _, rfl, Or.inr ⟨value, (readArgument_longJoined · field value)⟩⟩
  | shortSeparate letter h => exact ⟨_, _, rfl, Or.inl (begins_letter h)⟩
  | shortJoined letter h => exact ⟨_, _, rfl, Or.inr ⟨value, gives_letterJoined h value⟩⟩
  | shortAttached letter h =>
    refine ⟨_, _, rfl, ?_⟩
    -- what follows the letter may be empty, or begin with an equals sign itself
    have hread := fun r => readArgument_short r h value
    split at hread
    · exact Or.inl hread
    · exact Or.inr ⟨_, hread⟩
    · exact Or.inr ⟨_, hread⟩

/-- An option with a number is begun by its first argument, and its number is the second one; or it is
one argument, which gives it the number. -/
theorem arguments_cases (g : Given) :
    (∃ first, g.arguments = [first, toString g.value] ∧ Begins first g.field) ∨
      ∃ first, g.arguments = [first] ∧ Gives first g.field (toString g.value) := by
  obtain ⟨field, spelling, value, -⟩ := g
  cases spelling with
  | longSeparate => exact Or.inl ⟨_, rfl, (readArgument_long · field)⟩
  | longJoined => exact Or.inr ⟨_, rfl, (readArgument_longJoined · field _)⟩
  | shortSeparate letter h => exact Or.inl ⟨_, rfl, begins_letter h⟩
  | shortJoined letter h => exact Or.inr ⟨_, rfl, gives_letterJoined h _⟩
  | shortAttached letter h =>
    refine Or.inr ⟨_, rfl, fun r => ?_⟩
    obtain ⟨c, digits, heq, hc⟩ := exists_toList_toString value
    have hequals : c ≠ '=' := fun hc' => absurd hc (by rw [hc']; decide)
    have hread := readArgument_short r h (toString value)
    split at hread
    · next hnil => rw [heq] at hnil; cases hnil
    · next hcons =>
      rw [heq] at hcons
      exact absurd (List.cons.inj hcons).1 hequals
    · rwa [String.ofList_toList] at hread

/-! ## Lines of options -/

theorem readAll_cons {first : String} (h : first ≠ "--") (r : Reader) (rest : List String) :
    readAll r (first :: rest) = readArgument r first >>= (readAll · rest) := by
  have hbeq : (first == "--") = false := beq_false_of_ne h
  conv => lhs; rw [readAll.eq_def]
  simp only [hbeq]
  rfl

theorem readAll_of_begins {first : String} (h : Begins first field) (r : Reader)
    (rest : List String) :
    readAll r (first :: rest) = r.begin field >>= (readAll · rest) := by
  rw [← h r]
  refine readAll_cons ?_ r rest
  rintro rfl
  cases h {}

theorem readAll_of_gives {first value : String} (h : Gives first field value) (r : Reader)
    (rest : List String) :
    readAll r (first :: rest) = r.give field value >>= (readAll · rest) := by
  rw [← h r]
  refine readAll_cons ?_ r rest
  rintro rfl
  have hgive : Reader.accept {} field value = .error (.unknownArgument "--") := (h {}).symm
  unfold Reader.accept at hgive
  split at hgive
  · cases hgive
  · split at hgive <;> cases hgive

theorem Reader.pending_of_accept {value : String} (h : r.accept field value = .ok r') :
    r'.pending = r.pending := by
  unfold accept at h
  split at h
  · cases h
  · split at h <;> cases h
    rfl

/-- A reader that has looked at every value waits for none. -/
theorem Reader.pending_of_resolve (h : r.resolve = .ok r') : r'.pending = none := by
  unfold resolve at h
  split at h
  · next hnone => exact Except.ok.inj h ▸ hnone
  · cases h
  · exact pending_of_accept h

theorem Reader.resolve_of_pending (h : r.pending = none) : r.resolve = .ok r := by
  rw [resolve, h]

/-- Accepts an option with its number. -/
def Reader.acceptGiven (r : Reader) (g : Given) : Except Stop Reader :=
  r.accept g.field (toString g.value)

/-- The number after an option's name is looked at when the next arguments are read. -/
theorem readAll_of_begins_value {g : Given} {first : String} (h : Begins first g.field) (r : Reader)
    (rest : List String) : readAll r (first :: toString g.value :: rest) = r.resolve >>=
      fun r => readAll { r with pending := some ⟨g.field, some (toString g.value)⟩ } rest := by
  rw [readAll_of_begins h, Reader.begin]
  cases r.resolve with
  | error stop => rfl
  | ok r =>
    show readAll { r with pending := some { field := g.field } } (toString g.value :: rest) = _
    rw [readAll_cons (toString_ne_hyphens _), readArgument_toString]
    rfl

/-- An option with its number in one argument is accepted at once. -/
theorem readAll_of_gives_value {g : Given} {first : String}
    (h : Gives first g.field (toString g.value)) (r : Reader) (rest : List String) :
    readAll r (first :: rest) = r.resolve >>= fun r => r.acceptGiven g >>= (readAll · rest) := by
  rw [readAll_of_gives h, Reader.give]
  cases r.resolve <;> rfl

/-- Reading a line of options is accepting one after the other. -/
theorem readAll_line (options : List Given) (r : Reader) :
    readAll r (line options) = r.resolve >>= (options.foldlM Reader.acceptGiven ·) := by
  induction options generalizing r with
  | nil =>
    show r.resolve = r.resolve >>= pure
    rw [bind_pure]
  | cons g options ih =>
    have hline : line (g :: options) = g.arguments ++ line options := rfl
    rw [hline]
    rcases arguments_cases g with ⟨first, harguments, hfirst⟩ | ⟨first, harguments, hfirst⟩
    · rw [harguments]
      refine (readAll_of_begins_value hfirst r _).trans ?_
      cases hr : r.resolve with
      | error stop => rfl
      | ok r₀ =>
        show readAll { r₀ with pending := some ⟨g.field, some (toString g.value)⟩ } (line options) = _
        rw [ih]
        show Reader.accept { r₀ with pending := none } g.field (toString g.value) >>= _ = _
        rw [← Reader.pending_of_resolve hr]
        rfl
    · rw [harguments]
      refine (readAll_of_gives_value hfirst r _).trans ?_
      cases hr : r.resolve with
      | error stop => rfl
      | ok r₀ =>
        show (r₀.acceptGiven g >>= fun r => readAll r (line options)) =
          (r₀.acceptGiven g >>= fun r => options.foldlM Reader.acceptGiven r)
        cases haccept : r₀.acceptGiven g with
        | error stop => rfl
        | ok r₁ =>
          have hpending : r₁.pending = none :=
            (Reader.pending_of_accept haccept).trans (Reader.pending_of_resolve hr)
          show readAll r₁ (line options) = options.foldlM Reader.acceptGiven r₁
          rw [ih, Reader.resolve_of_pending hpending]
          rfl

/-! ## What is accepted -/

/-- The options on record, in the order in which they were accepted. -/
def Reader.fields (r : Reader) : List Field := r.values.map (·.1)

theorem Reader.isSome_lookup_iff : (r.values.lookup field).isSome = true ↔ field ∈ r.fields := by
  simp [fields, List.lookup_isSome_iff]

/-- An option that is on record is not accepted again. -/
theorem Reader.accept_of_mem (h : field ∈ r.fields) (value : String) :
    r.accept field value = .error (.repeated field) := by
  rw [accept, if_pos (isSome_lookup_iff.2 h)]

/-- The reader with one more option on record. -/
def Reader.record (r : Reader) (g : Given) : Reader :=
  { r with values := r.values ++ [(g.field, g.value)] }

theorem Reader.fields_record (r : Reader) (g : Given) :
    (r.record g).fields = r.fields ++ [g.field] := List.map_append

theorem Reader.acceptGiven_of_not_mem {g : Given} (h : g.field ∉ r.fields) :
    r.acceptGiven g = .ok (r.record g) := by
  have hnot : ¬(r.values.lookup g.field).isSome = true := fun hsome => h (isSome_lookup_iff.1 hsome)
  rw [acceptGiven, accept, if_neg hnot, readNumber_toString g.value_le]
  rfl

/-- Options that are all different are all accepted. -/
theorem foldlM_acceptGiven_of_nodup {options : List Given}
    (h : (r.fields ++ options.map (·.field)).Nodup) :
    options.foldlM Reader.acceptGiven r =
      .ok { r with values := r.values ++ options.map fun g => (g.field, g.value) } := by
  induction options generalizing r with
  | nil => simp [pure, Except.pure]
  | cons g options ih =>
    have hnot : g.field ∉ r.fields := by
      rw [List.map_cons, List.nodup_append] at h
      exact fun hmem => h.2.2 _ hmem _ List.mem_cons_self rfl
    have hnext : ((r.record g).fields ++ options.map (·.field)).Nodup := by
      simpa [Reader.fields_record] using h
    rw [List.foldlM_cons, Reader.acceptGiven_of_not_mem hnot]
    show options.foldlM Reader.acceptGiven (r.record g) = _
    rw [ih hnext]
    simp [Reader.record]

/-- Of options that are not all different, one is refused as repeated. -/
theorem foldlM_acceptGiven_of_not_nodup {options : List Given} (hr : r.fields.Nodup)
    (h : ¬(r.fields ++ options.map (·.field)).Nodup) :
    ∃ field, 2 ≤ (r.fields ++ options.map (·.field)).count field ∧
      options.foldlM Reader.acceptGiven r = .error (.repeated field) := by
  induction options generalizing r with
  | nil =>
    rw [List.map_nil, List.append_nil] at h
    exact (h hr).elim
  | cons g options ih =>
    by_cases hmem : g.field ∈ r.fields
    · refine ⟨g.field, ?_, ?_⟩
      · have hpos := List.count_pos_iff.2 hmem
        rw [List.map_cons, List.count_append, List.count_cons_self]
        omega
      · rw [List.foldlM_cons, Reader.acceptGiven, Reader.accept_of_mem hmem]
        rfl
    · have heq : (r.record g).fields ++ options.map (·.field) =
          r.fields ++ (g :: options).map (·.field) := by
        simp [Reader.fields_record]
      have hrecord : (r.record g).fields.Nodup := by
        rw [Reader.fields_record]
        exact List.nodup_append.2 ⟨hr, by simp, fun a ha b hb heq => hmem (by simp_all)⟩
      obtain ⟨field, hcount, herror⟩ := ih hrecord (heq ▸ h)
      refine ⟨field, heq ▸ hcount, ?_⟩
      rw [List.foldlM_cons, Reader.acceptGiven_of_not_mem hmem]
      exact herror

theorem lookup_given (options : List Given) (field : Field) :
    (options.map fun g => (g.field, g.value)).lookup field = given? options field := by
  induction options with
  | nil => rfl
  | cons g options ih =>
    by_cases h : g.field = field
    · simp [given?, h]
    · have h' : (field == g.field) = false := beq_false_of_ne (Ne.symm h)
      simpa [given?, List.lookup_cons, h, h'] using ih

/-! ## Options given twice -/

namespace Reader

/-- An option was given: it is on record, or its value was not looked at. -/
def Holding (r : Reader) (field : Field) : Prop :=
  field ∈ r.fields ∨ ∃ value, r.pending = some ⟨field, value⟩

/-- An option was given twice, and the second value was not looked at. -/
def Doomed (r : Reader) (field : Field) : Prop :=
  field ∈ r.fields ∧ ∃ value, r.pending = some ⟨field, value⟩

theorem fields_of_accept {value : String} (h : r.accept field value = .ok r') :
    r'.fields = r.fields ++ [field] := by
  unfold accept at h
  split at h
  · cases h
  · split at h <;> cases h
    exact List.map_append

/-- When every value was looked at, whatever was given is on record. -/
theorem Holding.resolve (hr : r.Holding field) (h : r.resolve = .ok r') : field ∈ r'.fields := by
  unfold Reader.resolve at h
  split at h
  · next hnone =>
    obtain rfl := Except.ok.inj h
    refine hr.resolve_right ?_
    rintro ⟨value, hvalue⟩
    rw [hnone] at hvalue
    cases hvalue
  · cases h
  · next other value hsome =>
    rw [fields_of_accept h]
    rcases hr with hmem | ⟨value', hvalue'⟩
    · exact List.mem_append_left _ hmem
    · rw [hsome] at hvalue'
      cases hvalue'
      exact List.mem_append_right _ List.mem_cons_self

theorem Doomed.resolve (hr : r.Doomed field) : ∃ stop, r.resolve = .error stop := by
  obtain ⟨hmem, value, hvalue⟩ := hr
  rw [Reader.resolve, hvalue]
  cases value with
  | none => exact ⟨_, rfl⟩
  | some value => exact ⟨_, accept_of_mem (r := { r with pending := none }) hmem value⟩

end Reader

namespace Reader

theorem begin_eq_ok (h : r.begin field = .ok r') :
    ∃ r₀, r.resolve = .ok r₀ ∧ r' = { r₀ with pending := some { field := field } } := by
  unfold begin at h
  cases hr : r.resolve with
  | error stop =>
    rw [hr] at h
    cases h
  | ok r₀ =>
    rw [hr] at h
    exact ⟨r₀, rfl, (Except.ok.inj h).symm⟩

theorem give_eq_ok {value : String} (h : r.give field value = .ok r') :
    ∃ r₀, r.resolve = .ok r₀ ∧ r₀.accept field value = .ok r' := by
  unfold give at h
  cases hr : r.resolve with
  | error stop =>
    rw [hr] at h
    cases h
  | ok r₀ =>
    rw [hr] at h
    exact ⟨r₀, rfl, h⟩

theorem halt_ne_ok (h : r.halt stop = .ok r') : False := by
  unfold halt at h
  cases hr : r.resolve <;> rw [hr] at h <;> cases h

end Reader

/-- What an argument does when it does not end the reading: it begins an option, gives one a value, or is
the value that is missing. -/
theorem readArgument_eq_ok {argument : String} (h : readArgument r argument = .ok r') :
    (∃ field, r.begin field = .ok r') ∨ (∃ field value, r.give field value = .ok r') ∨
      ∃ field value, r.pending = some ⟨field, none⟩ ∧
        r' = { r with pending := some ⟨field, value⟩ } := by
  unfold readArgument at h
  split at h
  · unfold readLong at h
    dsimp only at h
    split at h
    · exact Or.inl ⟨_, h⟩
    · exact Or.inr (Or.inl ⟨_, _, h⟩)
    · exact (Reader.halt_ne_ok h).elim
    · cases h
    · cases h
  · unfold readShort at h
    dsimp only at h
    split at h
    · exact Or.inl ⟨_, h⟩
    · exact Or.inr (Or.inl ⟨_, _, h⟩)
    · exact Or.inr (Or.inl ⟨_, _, h⟩)
    · split at h
      · exact (Reader.halt_ne_ok h).elim
      · split at h
        · exact (Reader.halt_ne_ok h).elim
        · cases h
  · unfold readPlain at h
    split at h
    · next hpending => exact Or.inr (Or.inr ⟨_, _, hpending, (Except.ok.inj h).symm⟩)
    · cases h

/-- Nothing takes an option back that was given. -/
theorem Reader.Holding.readArgument {argument : String} (hr : r.Holding field)
    (h : CommandLine.readArgument r argument = .ok r') : r'.Holding field := by
  rcases readArgument_eq_ok h with ⟨other, h⟩ | ⟨other, value, h⟩ | ⟨other, value, hpending, rfl⟩
  · obtain ⟨r₀, hresolve, rfl⟩ := begin_eq_ok h
    have hmem : field ∈ r₀.fields := hr.resolve hresolve
    exact Or.inl hmem
  · obtain ⟨r₀, hresolve, haccept⟩ := give_eq_ok h
    refine Or.inl ?_
    rw [fields_of_accept haccept]
    exact List.mem_append_left _ (hr.resolve hresolve)
  · refine hr.imp_right ?_
    rintro ⟨value', hvalue'⟩
    rw [hpending] at hvalue'
    cases hvalue'
    exact ⟨value, rfl⟩

/-- The second value of an option is not forgotten either. -/
theorem Reader.Doomed.readArgument {argument : String} (hr : r.Doomed field)
    (h : CommandLine.readArgument r argument = .ok r') : r'.Doomed field := by
  obtain ⟨stop, hstop⟩ := hr.resolve
  rcases readArgument_eq_ok h with ⟨other, h⟩ | ⟨other, value, h⟩ | ⟨other, value, hpending, rfl⟩
  · obtain ⟨r₀, hresolve, -⟩ := begin_eq_ok h
    rw [hstop] at hresolve
    cases hresolve
  · obtain ⟨r₀, hresolve, -⟩ := give_eq_ok h
    rw [hstop] at hresolve
    cases hresolve
  · obtain ⟨hmem, value', hvalue'⟩ := hr
    rw [hpending] at hvalue'
    cases hvalue'
    exact ⟨hmem, value, rfl⟩

/-- Reading goes on after an argument, or comes to an error there. -/
theorem exists_readAll_error {first : String} {rest : List String}
    (hempty : first = "--" → rest = [] → ∃ stop, r.resolve = .error stop)
    (h : ∀ r', readArgument r first = .ok r' → ∃ stop, readAll r' rest = .error stop) :
    ∃ stop, readAll r (first :: rest) = .error stop := by
  by_cases hfirst : first = "--"
  · subst hfirst
    cases rest with
    | nil =>
      obtain ⟨stop, hstop⟩ := hempty rfl rfl
      exact ⟨stop, hstop⟩
    | cons second rest => exact ⟨.unknownArgument second, rfl⟩
  · rw [readAll_cons hfirst]
    cases hread : readArgument r first with
    | error stop => exact ⟨stop, rfl⟩
    | ok r' => exact h r' hread

theorem Reader.Doomed.readAll (hr : r.Doomed field) (rest : List String) :
    ∃ stop, CommandLine.readAll r rest = .error stop := by
  induction rest generalizing r with
  | nil => exact hr.resolve
  | cons first rest ih => exact exists_readAll_error (fun _ _ => hr.resolve) fun r' h => ih (hr.readArgument h)

/-- An option is given that was given before. -/
theorem Reader.Holding.readAll_arguments (hr : r.Holding field) (spelling : Spelling field)
    (value : String) (after : List String) :
    ∃ stop, readAll r (spelling.arguments value ++ after) = .error stop := by
  obtain ⟨first, rest, harguments, hfirst | ⟨text, hfirst⟩⟩ := exists_first spelling value
  · rw [harguments, List.cons_append, readAll_of_begins hfirst]
    cases hbegin : r.begin field with
    | error stop => exact ⟨stop, rfl⟩
    | ok r' =>
      obtain ⟨r₀, hresolve, rfl⟩ := begin_eq_ok hbegin
      have hmem : field ∈ r₀.fields := hr.resolve hresolve
      have hdoomed : Doomed { r₀ with pending := some { field := field } } field :=
        ⟨hmem, none, rfl⟩
      exact hdoomed.readAll _
  · rw [harguments, List.cons_append, readAll_of_gives hfirst]
    cases hgive : r.give field text with
    | error stop => exact ⟨stop, rfl⟩
    | ok r' =>
      obtain ⟨r₀, hresolve, haccept⟩ := give_eq_ok hgive
      rw [accept_of_mem (hr.resolve hresolve)] at haccept
      cases haccept

/-- Arguments that come first change nothing about an error that is certain as long as something
holds. -/
theorem exists_readAll_append_error {P : Reader → Prop} {rest : List String}
    (hkeep : ∀ r r' argument, P r → readArgument r argument = .ok r' → P r') (hne : rest ≠ [])
    (h : ∀ r, P r → ∃ stop, readAll r rest = .error stop) (before : List String) (hr : P r) :
    ∃ stop, readAll r (before ++ rest) = .error stop := by
  induction before generalizing r with
  | nil => exact h r hr
  | cons first before ih =>
    refine exists_readAll_error (fun _ hempty => ?_) fun r' hread => ih (hkeep r r' first hr hread)
    exact absurd (List.append_eq_nil_iff.1 hempty).2 hne

theorem Spelling.arguments_append_ne_nil (spelling : Spelling field) (value : String)
    (after : List String) : spelling.arguments value ++ after ≠ [] := by
  obtain ⟨first, rest, harguments, -⟩ := exists_first spelling value
  simp [harguments]

/-- An option is given, and given again after other arguments. -/
theorem exists_readAll_twice_error (r : Reader) (spelling spelling' : Spelling field)
    (value value' : String) (between after : List String) :
    ∃ stop, readAll r (spelling.arguments value ++
      (between ++ (spelling'.arguments value' ++ after))) = .error stop := by
  have hagain : ∀ (r : Reader) (between : List String), r.Holding field →
      ∃ stop, readAll r (between ++ (spelling'.arguments value' ++ after)) = .error stop :=
    fun r between hr => exists_readAll_append_error (P := (·.Holding field))
      (fun _ _ _ h => h.readArgument) (spelling'.arguments_append_ne_nil value' after)
      (fun _ h => h.readAll_arguments spelling' value' after) between hr
  obtain ⟨first, rest, harguments, hfirst | ⟨text, hfirst⟩⟩ := exists_first spelling value
  · rw [harguments, List.cons_append, readAll_of_begins hfirst, ← List.append_assoc]
    cases hbegin : r.begin field with
    | error stop => exact ⟨stop, rfl⟩
    | ok r' =>
      obtain ⟨r₀, -, rfl⟩ := Reader.begin_eq_ok hbegin
      exact hagain _ _ (Or.inr ⟨none, rfl⟩)
  · rw [harguments, List.cons_append, readAll_of_gives hfirst, ← List.append_assoc]
    cases hgive : r.give field text with
    | error stop => exact ⟨stop, rfl⟩
    | ok r' =>
      obtain ⟨r₀, -, haccept⟩ := Reader.give_eq_ok hgive
      have hmem : field ∈ r'.fields := by
        rw [Reader.fields_of_accept haccept]
        exact List.mem_append_right _ List.mem_cons_self
      exact hagain _ _ (Or.inl hmem)

/-! ## Lines -/

theorem parse_line_of_nodup {options : List Given} (h : (options.map (·.field)).Nodup) :
    parse (line options) = .ok {
      messages := (given? options .messages).getD 10
      max := (given? options .max).getD 0
      timeoutMs := (given? options .timeout).getD 500 } := by
  have hread : readAll {} (line options) =
      .ok { values := options.map fun g => (g.field, g.value) } := by
    rw [readAll_line]
    exact foldlM_acceptGiven_of_nodup (r := {}) h
  rw [parse, hread]
  show Except.ok (Reader.settings _) = _
  simp only [Reader.settings, lookup_given]

theorem parse_line_of_not_nodup {options : List Given} (h : ¬(options.map (·.field)).Nodup) :
    ∃ field, 2 ≤ (options.map (·.field)).count field ∧
      parse (line options) = .error (.repeated field) := by
  obtain ⟨field, hcount, herror⟩ := foldlM_acceptGiven_of_not_nodup (r := {}) List.nodup_nil h
  refine ⟨field, hcount, ?_⟩
  have hread : readAll {} (line options) = .error (.repeated field) := by
    rw [readAll_line]
    exact herror
  rw [parse, hread]
  rfl

/-- Whatever options stand on a line, each of them once, in whatever order and each of them written in
whatever way, the numbers that they were written with are read, and the defaults for the others. When
some option stands there more than once, such an option is reported as repeated. And whatever else
stands on a line, before an option, after it and in between, a line on which an option stands twice is
never read, whatever the values and in whatever ways they are written. -/
theorem reads_what_is_written :
    (∀ options : List Given, (options.map (·.field)).Nodup →
      parse (line options) = .ok {
        messages := (given? options .messages).getD 10
        max := (given? options .max).getD 0
        timeoutMs := (given? options .timeout).getD 500 }) ∧
    (∀ options : List Given, ¬(options.map (·.field)).Nodup →
      ∃ field, 2 ≤ (options.map (·.field)).count field ∧
        parse (line options) = .error (.repeated field)) ∧
    ∀ (field : Field) (spelling spelling' : Spelling field) (value value' : String)
      (before between after : List String), ∃ stop,
        parse (before ++ spelling.arguments value ++ between ++ spelling'.arguments value' ++ after) =
          .error stop := by
  refine ⟨fun options => parse_line_of_nodup, fun options => parse_line_of_not_nodup, ?_⟩
  intro field spelling spelling' value value' before between after
  obtain ⟨stop, hstop⟩ := exists_readAll_append_error (P := fun _ => True) (r := {})
    (fun _ _ _ _ _ => trivial) (spelling.arguments_append_ne_nil value _)
    (fun r _ => exists_readAll_twice_error r spelling spelling' value value' between after)
    before trivial
  refine ⟨stop, ?_⟩
  rw [parse, List.append_assoc, List.append_assoc, List.append_assoc, hstop]
  rfl

/-- The theorem applies to a line with all three options in an order and in ways of their own, one of
them with the greatest number, and to a line with one option twice and something unknown in between. -/
theorem reads_what_is_written_mixed :
    parse ["-t=50", "--max", "18446744073709551615", "-m3"] =
        .ok { messages := 3, max := 18446744073709551615, timeoutMs := 50 } ∧
      ∃ stop, parse ["--messages", "1", "--what", "-m=2"] = .error stop := by
  let options : List Given := [
    { field := .timeout, spelling := .shortJoined 't' rfl, value := 50 },
    { field := .max, spelling := .longSeparate, value := 18446744073709551615 },
    { field := .messages, spelling := .shortAttached 'm' rfl, value := 3 }]
  have hline : line options = ["-t=50", "--max", "18446744073709551615", "-m3"] := by
    decide +kernel
  obtain ⟨hread, -, htwice⟩ := reads_what_is_written
  refine ⟨?_, htwice .messages .longSeparate (.shortJoined 'm' rfl) "1" "2" [] ["--what"] []⟩
  rw [← hline]
  exact hread options (by decide)

end PubSub.CommandLine
