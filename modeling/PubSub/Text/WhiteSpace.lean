/-!
# White space

The characters with the Unicode property `White_Space`: 25 code points, among them the no-break
spaces and the line and paragraph separators, but no zero-width character.

## Main definitions

- `Text.isWhiteSpace` — the property, as a test on characters
- `Text.isWord` — a text that is not empty and holds no white space
-/

namespace PubSub.Text

/-- The Unicode property `White_Space`. -/
def isWhiteSpace (c : Char) : Bool :=
  let n := c.toNat
  (0x9 ≤ n && n ≤ 0xD) || n == 0x20 || n == 0x85 || n == 0xA0 || n == 0x1680 ||
    (0x2000 ≤ n && n ≤ 0x200A) || n == 0x2028 || n == 0x2029 || n == 0x202F || n == 0x205F ||
    n == 0x3000

/-- A text that is not empty and holds no white space. -/
def isWord (s : String) : Bool := !s.isEmpty && !s.toList.any isWhiteSpace

/-- A text is a word exactly when it has a character and none of its characters is white space. -/
theorem isWord_iff {s : String} :
    isWord s = true ↔ s ≠ "" ∧ ∀ c ∈ s.toList, isWhiteSpace c = false := by
  simp [isWord, List.any_eq_false]

end PubSub.Text
