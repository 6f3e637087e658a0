import ChatEmbed.Text.Basic

/-!
# Blank characters and trimming

A character is blank if it has the Unicode property `White_Space`. The zero-width space, the byte
order mark and the information separators below U+0020 do not have it.

* `Char.isBlank` is the property as a table of ranges.
* `trimStart`, `trimEnd` and `trim` take blank characters off the ends of a text.
* `IsBlank` is a text without a visible character: the texts that trim to nothing.
-/

set_option autoImplicit false

namespace ChatEmbed

/-- The code points with the property `White_Space`, as ranges with both ends. -/
def blankRanges : List (Nat × Nat) :=
  [(0x9, 0xD), (0x20, 0x20), (0x85, 0x85), (0xA0, 0xA0), (0x1680, 0x1680), (0x2000, 0x200A),
    (0x2028, 0x2029), (0x202F, 0x202F), (0x205F, 0x205F), (0x3000, 0x3000)]

/-- Whether a character has the property `White_Space`. -/
def isBlank (c : Char) : Bool :=
  blankRanges.any fun (lo, hi) => lo ≤ c.toNat && c.toNat ≤ hi

/-- The property, range by range. -/
theorem isBlank_iff {c : Char} : isBlank c = true ↔
    (0x9 ≤ c.toNat ∧ c.toNat ≤ 0xD) ∨ c.toNat = 0x20 ∨ c.toNat = 0x85 ∨ c.toNat = 0xA0 ∨
    c.toNat = 0x1680 ∨ (0x2000 ≤ c.toNat ∧ c.toNat ≤ 0x200A) ∨ c.toNat = 0x2028 ∨
    c.toNat = 0x2029 ∨ c.toNat = 0x202F ∨ c.toNat = 0x205F ∨ c.toNat = 0x3000 := by
  simp only [isBlank, blankRanges, List.any_cons, List.any_nil, Bool.or_false, Bool.or_eq_true,
    Bool.and_eq_true, decide_eq_true_eq]
  omega

namespace Text

/-- The text without the blank characters it begins with. -/
def trimStart (s : Text) : Text :=
  s.dropWhile isBlank

/-- The text without the blank characters it ends with. -/
def trimEnd (s : Text) : Text :=
  (trimStart s.reverse).reverse

/-- The text without the blank characters at both ends. -/
def trim (s : Text) : Text :=
  trimEnd (trimStart s)

/-- Whether a text has no visible character. -/
def IsBlank (s : Text) : Prop :=
  trim s = []

instance (s : Text) : Decidable (IsBlank s) :=
  inferInstanceAs (Decidable (trim s = []))

@[simp] theorem trim_nil : trim [] = [] := rfl

theorem trimStart_eq_self {c : Char} {r : Text} (h : isBlank c = false) :
    trimStart (c :: r) = c :: r := by
  simp [trimStart, h]

end Text
end ChatEmbed
