import ChatEmbed.Text.Decimal
import Mathlib.Data.List.Basic
import Mathlib.Tactic.IntervalCases

/-!
# Decimal numerals and their numbers

Numbers come into the library as runs of digits that people have written, with any number of zeros
in front, and leave it as numerals of a given width.

* `Text.IsNumeral` is a run of digits, and `Text.Denotes` relates it, perhaps with a sign, to its
  number: this is what `Text.integer?` reads.
* `Text.InDigits` is a number in a given count of digits, which is what `Text.padded` writes if the
  number is small enough.  For larger numbers no zero is written in front (`Text.head?_padded`).
-/

set_option autoImplicit false

namespace ChatEmbed
namespace Text

/-! ## Reading -/

/-- One or more digits and nothing else. -/
structure IsNumeral (s : Text) : Prop where
  nonempty : s ≠ []
  digits : ∀ c ∈ s, c.isDigit = true

theorem natural?_eq_some_iff {s : Text} {n : Nat} :
    natural? s = some n ↔ IsNumeral s ∧ value s = n := by
  rw [natural?]
  split
  case isTrue h =>
    refine iff_of_false (by simp) fun ⟨hs, _⟩ ↦ ?_
    simp only [Bool.or_eq_true, List.isEmpty_iff, Bool.not_eq_true', List.all_eq_false] at h
    rcases h with hnil | ⟨c, hc, hdigit⟩
    · exact hs.nonempty hnil
    · exact hdigit (hs.digits c hc)
  case isFalse h =>
    simp only [Bool.or_eq_true, List.isEmpty_iff, not_or, Bool.not_eq_true', List.all_eq_false,
      not_exists, not_and, not_not] at h
    rw [Option.some.injEq, and_iff_right ⟨h.1, h.2⟩]

/-- A text is the numeral of an integer: digits, with at most one sign in front. -/
inductive Denotes : Text → Int → Prop
  | plain {s : Text} (numeral : IsNumeral s) : Denotes s (value s)
  | plus {s : Text} (numeral : IsNumeral s) : Denotes ('+' :: s) (value s)
  | minus {s : Text} (numeral : IsNumeral s) : Denotes ('-' :: s) (-value s)

theorem IsNumeral.ne_cons {c : Char} (hc : c.isDigit = false) (s : Text) : ¬IsNumeral (c :: s) := by
  intro h
  rw [h.digits c List.mem_cons_self] at hc
  cases hc

/-- What becomes of the number of a run of digits under its sign. -/
theorem map_natural?_eq_some_iff {f : Int → Int} {s : Text} {n : Int} :
    (natural? s >>= fun m ↦ pure (m : Int)).map f = some n ↔ IsNumeral s ∧ f (value s) = n := by
  by_cases hs : IsNumeral s
  · rw [natural?_eq_some_iff.mpr ⟨hs, rfl⟩, and_iff_right hs]
    exact Option.some_inj
  · have hnone : natural? s = none :=
      Option.eq_none_iff_forall_ne_some.mpr fun m hm ↦ hs (natural?_eq_some_iff.mp hm).1
    rw [hnone]
    exact iff_of_false (by simp) fun h ↦ hs h.1

/-- **Reading an integer finds the number that its numeral denotes.** -/
theorem integer?_eq_some_iff {s : Text} {n : Int} : integer? s = some n ↔ Denotes s n := by
  rw [integer?.eq_def]
  split <;> rw [map_natural?_eq_some_iff] <;> constructor
  case h_1.mp => exact fun ⟨hs, hn⟩ ↦ hn ▸ .minus hs
  case h_2.mp => exact fun ⟨hs, hn⟩ ↦ hn ▸ .plus hs
  case h_3.mp => exact fun ⟨hs, hn⟩ ↦ hn ▸ .plain hs
  case h_1.mpr =>
    intro h
    cases h with
    | plain hs => exact absurd hs (IsNumeral.ne_cons (by decide) _)
    | minus hs => exact ⟨hs, rfl⟩
  case h_2.mpr =>
    intro h
    cases h with
    | plain hs => exact absurd hs (IsNumeral.ne_cons (by decide) _)
    | plus hs => exact ⟨hs, rfl⟩
  case h_3.mpr hminus hplus =>
    intro h
    cases h with
    | plain hs => exact ⟨hs, rfl⟩
    | plus hs => exact absurd rfl (hplus _)
    | minus hs => exact absurd rfl (hminus _)

theorem Denotes.unique {s : Text} {n m : Int} (hn : Denotes s n) (hm : Denotes s m) : n = m :=
  Option.some.inj ((integer?_eq_some_iff.mpr hn).symm.trans (integer?_eq_some_iff.mpr hm))

/-! ## Writing -/

theorem value_digits (n : Nat) : value (digits n) = n :=
  Nat.ofDigitChars_toDigits (by decide) (by decide)

theorem isNumeral_digits (n : Nat) : IsNumeral (digits n) where
  nonempty := Nat.toDigits_ne_nil
  digits _ hc := Nat.isDigit_of_mem_toDigits (by decide) (by decide) hc

/-- The numeral of an integer denotes it. -/
theorem denotes_ofInt (n : Int) : Denotes (ofInt n) n := by
  cases n with
  | ofNat n =>
    have h := Denotes.plain (isNumeral_digits n)
    rwa [value_digits] at h
  | negSucc n =>
    have h := Denotes.minus (isNumeral_digits (n + 1))
    rwa [value_digits] at h

/-- No numeral but that of zero begins with a zero. -/
theorem head?_digits {n : Nat} (h : n ≠ 0) : (digits n).head? ≠ some '0' := by
  induction n using Nat.strong_induction_on with
  | h n ih =>
    rw [digits, Nat.toDigits_eq_if (by decide)]
    split
    case isTrue hlt => interval_cases n <;> simp_all
    case isFalse hle =>
      have hhead : (digits (n / 10)).head? ≠ some '0' := ih (n / 10) (by omega) (by omega)
      rwa [List.head?_append_of_ne_nil _ Nat.toDigits_ne_nil]

theorem value_zeros (count : Nat) (s : Text) :
    value (List.replicate count '0' ++ s) = value s := by
  induction count with
  | zero => rfl
  | succ count ih => exact ih

theorem value_padded (width n : Nat) : value (padded width n) = n := by
  rw [padded, value_zeros, value_digits]

theorem isNumeral_padded (width n : Nat) : IsNumeral (padded width n) where
  nonempty := List.append_ne_nil_of_right_ne_nil _ (isNumeral_digits n).nonempty
  digits c hc := by
    rcases List.mem_append.mp hc with hzero | hdigit
    · rw [List.eq_of_mem_replicate hzero]
      decide
    · exact (isNumeral_digits n).digits c hdigit

theorem length_padded (width n : Nat) :
    (padded width n).length = max width (digits n).length := by
  rw [padded, List.length_append, List.length_replicate]
  omega

/-- A number that fills the width has no zeros in front. -/
theorem head?_padded {width n : Nat} (hn : n ≠ 0) (h : width ≤ (digits n).length) :
    (padded width n).head? ≠ some '0' := by
  rw [padded, Nat.sub_eq_zero_of_le h]
  exact head?_digits hn

/-- A text is the numeral of a number, with a given count of digits. -/
structure InDigits (count : Nat) (s : Text) (n : Nat) : Prop where
  numeral : IsNumeral s
  value_eq : value s = n
  length_eq : s.length = count

theorem inDigits_padded {width n : Nat} (h : (digits n).length ≤ width) :
    InDigits width (padded width n) n where
  numeral := isNumeral_padded width n
  value_eq := value_padded width n
  length_eq := by rw [length_padded, Nat.max_eq_left h]

end Text
end ChatEmbed
