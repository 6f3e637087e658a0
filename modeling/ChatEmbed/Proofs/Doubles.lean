import ChatEmbed.Double
import Mathlib.Algebra.Order.Field.Basic
import Mathlib.Data.Rat.Cast.Order
import Mathlib.Tactic.FieldSimp
import Mathlib.Tactic.Linarith
import Mathlib.Tactic.Ring

/-!
# Which numerals are read as a double

A double is written as a decimal numeral, and whoever reads it gets the double that is nearest to the
number.  All comparisons are made between whole multiples of a quarter of the least positive double,
where midpoints between neighbours are whole too.

* `Double.upperMidpoint_le` and `Double.le_lowerMidpoint` say that neither midpoint of a double goes
  beyond the middle between it and any other double.
* `Double.Reads` are the numbers that are read as a double, up to its sign.  No double is closer to
  them (`Reads.closest`), and they are read as no other one (`Reads.units_eq`).
* `Double.isNearest_iff` says that the numerals of a double are those whose number is read as it.
  The shortest one is among them (`Double.reads_shortest`), and none of the others ends at a higher
  power of ten (`Double.power_le_power_shortest`).
-/

set_option autoImplicit false

namespace ChatEmbed
namespace Double

/-! ## Doubles as whole multiples -/

variable {x y : Double}

theorem fraction_lt (x : Double) : x.fraction < 2 ^ 52 :=
  Nat.mod_lt _ (by decide)

theorem significand_lt (x : Double) : x.significand < 2 ^ 53 := by
  have hfraction := x.fraction_lt
  have hpow : Nat.pow 2 52 = 2 ^ 52 := rfl
  rw [significand, hpow]
  split <;> omega

/-- Only the least doubles have a significand without a leading one. -/
theorem significand_eq (h : 0 < x.scale) : x.significand = 2 ^ 52 + x.fraction := by
  have hbits : scaleBits x.bits ≠ 0 := by
    intro hzero
    rw [scale, hzero] at h
    exact absurd h (Nat.lt_irrefl 0)
  rw [significand, if_neg hbits]
  rfl

theorem units_eq (x : Double) : x.units = x.significand * 2 ^ x.scale := rfl

/-- All significands of a scale are larger than those of a smaller one, even by half a step. -/
theorem two_mul_units_add_le (h : x.scale < y.scale) :
    2 * x.units + 2 ^ y.scale ≤ 2 ^ 53 * 2 ^ y.scale := by
  have hpow : 2 ^ (x.scale + 1) ≤ 2 ^ y.scale := Nat.pow_le_pow_right Nat.two_pos h
  calc 2 * x.units + 2 ^ y.scale
      = x.significand * 2 ^ (x.scale + 1) + 2 ^ y.scale := by rw [units_eq]; ring
    _ ≤ x.significand * 2 ^ y.scale + 2 ^ y.scale :=
      Nat.add_le_add_right (Nat.mul_le_mul_left _ hpow) _
    _ = (x.significand + 1) * 2 ^ y.scale := (Nat.succ_mul ..).symm
    _ ≤ 2 ^ 53 * 2 ^ y.scale := Nat.mul_le_mul_right _ x.significand_lt

theorem le_units (h : 0 < x.scale) :
    2 ^ 52 * 2 ^ x.scale + x.fraction * 2 ^ x.scale ≤ x.units := by
  rw [units_eq, significand_eq h, Nat.add_mul]

theorem units_lt_of_scale_lt (h : x.scale < y.scale) : x.units < y.units := by
  have hsmall := two_mul_units_add_le h
  have hlarge := le_units (Nat.zero_lt_of_lt h)
  have hpow := Nat.two_pow_pos y.scale
  omega

theorem scale_le_of_units_lt (h : x.units < y.units) : x.scale ≤ y.scale :=
  Nat.le_of_not_lt fun hscale ↦ Nat.lt_asymm h (units_lt_of_scale_lt hscale)

/-- The next double is at least one step away. -/
theorem units_add_le (h : x.units < y.units) : x.units + 2 ^ x.scale ≤ y.units := by
  obtain ⟨d, hd⟩ := Nat.exists_eq_add_of_le (scale_le_of_units_lt h)
  have hy : y.units = y.significand * 2 ^ d * 2 ^ x.scale := by
    rw [units_eq, hd, Nat.pow_add, Nat.mul_assoc, Nat.mul_comm (2 ^ d)]
  rw [units_eq, hy] at h ⊢
  rw [← Nat.succ_mul]
  exact Nat.mul_le_mul_right _ (Nat.lt_of_mul_lt_mul_right h)

/-! ## Midpoints -/

/-- The upper midpoint is not beyond the middle between a double and a larger one. -/
theorem upperMidpoint_le (h : x.units < y.units) : x.upperMidpoint ≤ 2 * (x.units + y.units) := by
  have hstep := units_add_le h
  rw [upperMidpoint, Nat.pow_eq]
  omega

/-- The lower midpoint is not beyond the middle between a double and a smaller one. -/
theorem le_lowerMidpoint (h : x.units < y.units) : 2 * (x.units + y.units) ≤ y.lowerMidpoint := by
  rw [lowerMidpoint, Nat.pow_eq]
  rcases Nat.eq_or_lt_of_le (scale_le_of_units_lt h) with hscale | hscale
  · have hstep := units_add_le h
    rw [hscale] at hstep
    split <;> omega
  have hsmall := two_mul_units_add_le hscale
  have hlarge := le_units (Nat.zero_lt_of_lt hscale)
  split
  case isTrue => omega
  case isFalse hpow =>
    -- a step has its full length since the fraction counts at least one more
    have hfraction : 1 ≤ y.fraction := by
      by_contra hzero
      exact hpow ⟨by omega, Nat.zero_lt_of_lt hscale⟩
    have hstep : 2 ^ y.scale ≤ y.fraction * 2 ^ y.scale := Nat.le_mul_of_pos_left _ hfraction
    omega

theorem lt_upperMidpoint (x : Double) : 4 * x.units < x.upperMidpoint :=
  Nat.lt_add_of_pos_right (Nat.mul_pos Nat.two_pos (Nat.two_pow_pos _))

theorem lowerMidpoint_le (x : Double) : x.lowerMidpoint ≤ 4 * x.units := by
  rw [lowerMidpoint]
  split <;> exact Nat.sub_le ..

theorem lowerMidpoint_lt (h : 0 < x.units) : x.lowerMidpoint < 4 * x.units := by
  have hpow := Nat.two_pow_pos x.scale
  rw [lowerMidpoint, Nat.pow_eq]
  split <;> omega

/-! ## The numbers that are read as a double -/

/-- A number as a multiple of a quarter of the least positive double. -/
def quarters (q : ℚ) : ℚ := q * 2 ^ 1076

/-- The magnitude of a double. -/
def magnitude (x : Double) : ℚ := x.units / 2 ^ 1074

theorem quarters_magnitude (x : Double) : quarters x.magnitude = 4 * x.units := by
  have hsplit : (2 : ℚ) ^ 1076 = 2 ^ 1074 * 4 := by rw [pow_add 2 1074 2]; norm_num
  rw [quarters, magnitude, hsplit, ← mul_assoc, div_mul_cancel₀ _ (by positivity), mul_comm]

/-- The number is read as the magnitude of the double: it lies between the midpoints to the
neighbours, which belong to the double if its significand is even. -/
def Reads (x : Double) (q : ℚ) : Prop :=
  if x.significand % 2 = 0 then x.lowerMidpoint ≤ quarters q ∧ quarters q ≤ x.upperMidpoint
  else x.lowerMidpoint < quarters q ∧ quarters q < x.upperMidpoint

theorem Reads.bounds {q : ℚ} (h : x.Reads q) :
    x.lowerMidpoint ≤ quarters q ∧ quarters q ≤ x.upperMidpoint := by
  rw [Reads] at h
  split at h
  · exact h
  · exact ⟨h.1.le, h.2.le⟩

theorem reads_of_lt {q : ℚ} (hlower : x.lowerMidpoint < quarters q)
    (hupper : quarters q < x.upperMidpoint) : x.Reads q := by
  rw [Reads]
  split
  · exact ⟨hlower.le, hupper.le⟩
  · exact ⟨hlower, hupper⟩

theorem abs_quarters_sub (q r : ℚ) : |quarters q - quarters r| = |q - r| * 2 ^ 1076 := by
  rw [quarters, quarters, ← sub_mul, abs_mul, abs_of_pos (by positivity : (0 : ℚ) < 2 ^ 1076)]

/-- **No other double is closer** to a number than the one that it is read as. -/
theorem Reads.closest {q : ℚ} (h : x.Reads q) (y : Double) :
    |q - x.magnitude| ≤ |q - y.magnitude| := by
  obtain ⟨hlower, hupper⟩ := h.bounds
  refine le_of_mul_le_mul_right ?_ (by positivity : (0 : ℚ) < 2 ^ 1076)
  rw [← abs_quarters_sub, ← abs_quarters_sub, quarters_magnitude, quarters_magnitude, abs_le]
  rcases Nat.lt_trichotomy x.units y.units with hlt | heq | hgt
  · have hmiddle : (x.upperMidpoint : ℚ) ≤ 2 * (x.units + y.units) := by
      exact_mod_cast upperMidpoint_le hlt
    have hunits : (x.units : ℚ) < y.units := by exact_mod_cast hlt
    constructor <;> cases abs_cases (quarters q - 4 * y.units) <;> linarith
  · rw [heq]
    exact ⟨neg_abs_le _, le_abs_self _⟩
  · have hmiddle : (2 * (y.units + x.units) : ℚ) ≤ x.lowerMidpoint := by
      exact_mod_cast le_lowerMidpoint hgt
    have hunits : (y.units : ℚ) < x.units := by exact_mod_cast hgt
    constructor <;> cases abs_cases (quarters q - 4 * y.units) <;> linarith

/-- If the next double is just one step away, the two significands are not both even. -/
theorem odd_of_units_eq_add (h : y.units = x.units + 2 ^ x.scale) :
    x.significand % 2 = 1 ∨ y.significand % 2 = 1 := by
  have hlt : x.units < y.units := h ▸ Nat.lt_add_of_pos_right (Nat.two_pow_pos _)
  rcases Nat.eq_or_lt_of_le (scale_le_of_units_lt hlt) with hscale | hscale
  · have hnext : y.significand = x.significand + 1 := by
      rw [units_eq, units_eq, ← hscale, ← Nat.succ_mul] at h
      exact Nat.eq_of_mul_eq_mul_right (Nat.two_pow_pos _) h
    omega
  · -- the smaller one is the last of its scale, and all bits of its significand are set
    have hsmall := two_mul_units_add_le hscale
    have hlarge := le_units (Nat.zero_lt_of_lt hscale)
    have hpow : 2 ^ (x.scale + 1) ≤ 2 ^ y.scale := Nat.pow_le_pow_right Nat.two_pos hscale
    rw [Nat.pow_succ] at hpow
    have hlast : (x.significand + 1) * 2 ^ x.scale = 2 ^ 53 * 2 ^ x.scale := by
      rw [Nat.succ_mul, ← units_eq]
      omega
    have := Nat.eq_of_mul_eq_mul_right (Nat.two_pow_pos _) hlast
    omega

theorem Reads.not_of_units_lt {q : ℚ} (hx : x.Reads q) (h : x.units < y.units) : ¬y.Reads q := by
  intro hy
  have hupper : (x.upperMidpoint : ℚ) ≤ (2 * (x.units + y.units) : ℕ) := by
    exact_mod_cast upperMidpoint_le h
  have hlower : ((2 * (x.units + y.units) : ℕ) : ℚ) ≤ y.lowerMidpoint := by
    exact_mod_cast le_lowerMidpoint h
  -- the number is the middle between the two, and belongs to both of them
  have hx' := hx.bounds.2
  have hy' := hy.bounds.1
  have hstep : y.units = x.units + 2 ^ x.scale := by
    have hmeet : x.upperMidpoint = 2 * (x.units + y.units) := by
      exact_mod_cast le_antisymm hupper (by linarith)
    rw [upperMidpoint, Nat.pow_eq] at hmeet
    omega
  rcases odd_of_units_eq_add hstep with hodd | hodd
  · rw [Reads, if_neg (by omega)] at hx
    linarith [hx.2]
  · rw [Reads, if_neg (by omega)] at hy
    linarith [hy.1]

/-- **A number is read as one magnitude only.** -/
theorem Reads.units_eq {q : ℚ} (hx : x.Reads q) (hy : y.Reads q) : x.units = y.units := by
  rcases Nat.lt_trichotomy x.units y.units with h | h | h
  · exact absurd hy (hx.not_of_units_lt h)
  · exact h
  · exact absurd hx (hy.not_of_units_lt h)

/-- The bits of a double: its sign, its scale and its fraction. -/
theorem toNat_bits (x : Double) : x.bits.toNat =
    (if x.isNegative then 2 ^ 63 else 0) + scaleBits x.bits * 2 ^ 52 + x.fraction := by
  have hlt : x.bits.toNat < 2 ^ 64 := x.bits.toNat_lt
  have hsign : x.isNegative = decide (2 ^ 63 ≤ x.bits.toNat) := rfl
  have hscale : scaleBits x.bits = x.bits.toNat / 2 ^ 52 % 2 ^ 11 := rfl
  have hfraction : x.fraction = x.bits.toNat % 2 ^ 52 := rfl
  rw [hsign, hscale, hfraction]
  simp only [decide_eq_true_eq]
  split <;> omega

/-- A double is its sign and its magnitude. -/
theorem eq_of_units_eq (hunits : x.units = y.units) (hsign : x.isNegative = y.isNegative) :
    x = y := by
  have hscale : x.scale = y.scale := by
    rcases Nat.lt_trichotomy x.scale y.scale with h | h | h
    · exact absurd hunits (units_lt_of_scale_lt h).ne
    · exact h
    · exact absurd hunits (units_lt_of_scale_lt h).ne'
  have hsignificand : x.significand = y.significand := by
    rw [units_eq, units_eq, hscale] at hunits
    exact Nat.eq_of_mul_eq_mul_right (Nat.two_pow_pos _) hunits
  have hbits : scaleBits x.bits = scaleBits y.bits ∧ x.fraction = y.fraction := by
    have hx := x.fraction_lt
    have hy := y.fraction_lt
    have hpow : Nat.pow 2 52 = 2 ^ 52 := rfl
    rw [significand, significand, hpow] at hsignificand
    rw [scale, scale] at hscale
    split at hsignificand <;> split at hsignificand <;> omega
  have htoNat : x.bits = y.bits := by
    rw [← UInt64.toNat_inj, toNat_bits, toNat_bits, hsign, hbits.1, hbits.2]
  cases x
  cases y
  cases htoNat
  rfl

/-! ## Numerals -/

/-- The number that a numeral stands for. -/
def Numeral.toRat (numeral : Numeral) : ℚ := numeral.digits * 10 ^ numeral.power

/-- A numeral on the scale that fits its power. -/
theorem quarters_toRat (digits : Nat) (power : Int) :
    quarters (⟨digits, power⟩ : Numeral).toRat * 10 ^ (-power).toNat =
      (digits * gridStep power : ℕ) := by
  have hpower : (10 : ℚ) ^ power * 10 ^ (-power).toNat = 10 ^ power.toNat := by
    rw [← zpow_natCast, ← zpow_natCast, ← zpow_add₀ (by norm_num)]
    congr 1
    omega
  unfold quarters gridStep
  -- the power of two is too large to be worked out
  generalize 1076 = exponent
  simp only [Nat.pow_eq, Nat.cast_mul, Nat.cast_pow, Nat.cast_ofNat, ← hpower, Numeral.toRat]
  ring

theorem scaled_le_iff (quarter digits : Nat) (power : Int) :
    scaled quarter power ≤ digits * gridStep power ↔
      (quarter : ℚ) ≤ quarters (⟨digits, power⟩ : Numeral).toRat := by
  rw [← mul_le_mul_iff_left₀ (by positivity : (0 : ℚ) < 10 ^ (-power).toNat), quarters_toRat,
    scaled, Nat.pow_eq]
  exact_mod_cast Iff.rfl

theorem le_scaled_iff (quarter digits : Nat) (power : Int) :
    digits * gridStep power ≤ scaled quarter power ↔
      quarters (⟨digits, power⟩ : Numeral).toRat ≤ (quarter : ℚ) := by
  rw [← mul_le_mul_iff_left₀ (by positivity : (0 : ℚ) < 10 ^ (-power).toNat), quarters_toRat,
    scaled, Nat.pow_eq]
  exact_mod_cast Iff.rfl

/-- **The numerals of a double are those whose number is read as it.** -/
theorem isNearest_iff {numeral : Numeral} :
    x.isNearest numeral = true ↔ x.Reads numeral.toRat := by
  rw [isNearest, Reads]
  split <;>
    simp only [Bool.and_eq_true, decide_eq_true_eq, scaled_le_iff, le_scaled_iff, ← not_le]

/-- A double is read as itself. -/
theorem reads_magnitude (x : Double) : x.Reads x.magnitude := by
  have hlower : (x.lowerMidpoint : ℚ) ≤ 4 * x.units := by exact_mod_cast x.lowerMidpoint_le
  have hupper : (4 * x.units : ℚ) < x.upperMidpoint := by exact_mod_cast x.lt_upperMidpoint
  rw [Reads, quarters_magnitude]
  split
  case isTrue => exact ⟨hlower, hupper.le⟩
  case isFalse hodd =>
    have hunits : 0 < x.units := Nat.mul_pos (by omega) (Nat.two_pow_pos _)
    exact ⟨by exact_mod_cast lowerMidpoint_lt hunits, hupper⟩

theorem toRat_exactNumeral (x : Double) : x.exactNumeral.toRat = x.magnitude := by
  have hpower : (-1074 : ℤ) = -(1074 : ℕ) := rfl
  have hten : (10 : ℚ) = 5 * 2 := by norm_num
  rw [exactNumeral, Numeral.toRat, magnitude, hpower, zpow_neg, zpow_natCast]
  generalize 1074 = exponent
  simp only [Nat.pow_eq, Nat.cast_mul, Nat.cast_pow, Nat.cast_ofNat]
  rw [hten, mul_pow]
  field_simp

/-- **The shortest numeral of a double is read as it.** -/
theorem reads_shortest (x : Double) : x.Reads x.shortest.toRat := by
  rw [← isNearest_iff, shortest]
  cases h : powers.findSome? fun power ↦ (x.around power).find? x.isNearest with
  | none =>
    rw [isNearest_iff, Option.getD_none, toRat_exactNumeral]
    exact x.reads_magnitude
  | some numeral =>
    obtain ⟨power, -, hfound⟩ := List.exists_of_findSome?_eq_some h
    exact List.find?_some hfound

/-! ## The coarsest grid -/

theorem quarters_le_quarters {q r : ℚ} (h : q ≤ r) : quarters q ≤ quarters r :=
  mul_le_mul_of_nonneg_right h (by positivity)

/-- What lies between two numbers that are read as a double is read as it too. -/
theorem Reads.between {q r t : ℚ} (hq : x.Reads q) (hr : x.Reads r) (hqt : quarters q ≤ quarters t)
    (htr : quarters t ≤ quarters r) : x.Reads t := by
  rw [Reads] at hq hr ⊢
  split at hq <;> rename_i hparity
  · rw [if_pos hparity] at hr ⊢
    exact ⟨hq.1.trans hqt, htr.trans hr.2⟩
  · rw [if_neg hparity] at hr ⊢
    exact ⟨hq.1.trans_le hqt, htr.trans_lt hr.2⟩

theorem Numeral.toRat_le_toRat {digits others : Nat} (h : digits ≤ others) (power : Int) :
    (⟨digits, power⟩ : Numeral).toRat ≤ (⟨others, power⟩ : Numeral).toRat :=
  mul_le_mul_of_nonneg_right (Nat.cast_le.mpr h) (zpow_nonneg (by norm_num) power)

theorem gridStep_pos (power : Int) : 0 < gridStep power := by
  unfold gridStep
  generalize 1076 = exponent
  exact Nat.mul_pos (Nat.pow_pos (by decide)) (Nat.two_pow_pos exponent)

theorem gridStep_le_gridStep {power other : Int} (h : power ≤ other) :
    gridStep power ≤ gridStep other :=
  Nat.mul_le_mul_right _ (Nat.pow_le_pow_right (by decide) (Int.toNat_le_toNat h))

theorem mem_around {power : Int} {numeral : Numeral} : numeral ∈ x.around power ↔
    numeral = ⟨scaled (4 * x.units) power / gridStep power, power⟩ ∨
      numeral = ⟨scaled (4 * x.units) power / gridStep power + 1, power⟩ := by
  rw [around]
  split <;> simp [or_comm]

/-- If any numeral of a power is read as a double, so is one of the two next to the double. -/
theorem exists_mem_around {numeral : Numeral} (h : x.Reads numeral.toRat) :
    ∃ other ∈ x.around numeral.power, x.Reads other.toRat := by
  obtain ⟨digits, power⟩ := numeral
  generalize hvalue : scaled (4 * x.units) power = value
  rcases Nat.lt_or_ge (value / gridStep power) digits with hdigits | hdigits
  · refine ⟨⟨value / gridStep power + 1, power⟩, mem_around.mpr (.inr (by rw [hvalue])), ?_⟩
    refine x.reads_magnitude.between h ?_ (quarters_le_quarters (Numeral.toRat_le_toRat hdigits _))
    have hle : scaled (4 * x.units) power ≤ (value / gridStep power + 1) * gridStep power := by
      rw [hvalue, Nat.mul_comm]
      exact (Nat.lt_mul_div_succ _ (gridStep_pos power)).le
    rw [quarters_magnitude]
    exact_mod_cast (scaled_le_iff ..).mp hle
  · refine ⟨⟨value / gridStep power, power⟩, mem_around.mpr (.inl (by rw [hvalue])), ?_⟩
    refine h.between x.reads_magnitude (quarters_le_quarters (Numeral.toRat_le_toRat hdigits _)) ?_
    have hle : value / gridStep power * gridStep power ≤ scaled (4 * x.units) power := by
      rw [hvalue]
      exact Nat.div_mul_le_self ..
    rw [quarters_magnitude]
    exact_mod_cast (le_scaled_iff ..).mp hle

theorem mem_powers {power : Int} : power ∈ powers ↔ -324 ≤ power ∧ power ≤ 309 := by
  simp only [powers, List.mem_map, List.mem_range]
  constructor
  · rintro ⟨n, hn, rfl⟩
    omega
  · rintro ⟨hlower, hupper⟩
    exact ⟨(309 - power).toNat, by omega, by omega⟩

/-- The powers are tried from the greatest on. -/
theorem pairwise_powers : powers.Pairwise (· > ·) := by
  rw [powers, List.pairwise_map]
  exact List.pairwise_lt_range.imp fun h ↦ by omega

/-- A power with a numeral that is read as the double is not passed over. -/
theorem le_power_shortest {numeral : Numeral} (h : x.Reads numeral.toRat)
    (hmem : numeral.power ∈ powers) : numeral.power ≤ x.shortest.power := by
  have hfound : (x.around numeral.power).find? x.isNearest ≠ none := by
    obtain ⟨other, hother, hreads⟩ := exists_mem_around h
    intro hnone
    exact List.find?_eq_none.mp hnone other hother (isNearest_iff.mpr hreads)
  rw [shortest]
  cases hsearch : powers.findSome? fun power ↦ (x.around power).find? x.isNearest with
  | none => exact absurd (List.findSome?_eq_none_iff.mp hsearch _ hmem) hfound
  | some found =>
    obtain ⟨before, power, after, hsplit, hpower, hbefore⟩ := List.findSome?_eq_some_iff.mp hsearch
    have hsame : found.power = power := by
      rcases mem_around.mp (List.mem_of_find?_eq_some hpower) with rfl | rfl <;> rfl
    have hordered := pairwise_powers
    rw [Option.getD_some, hsame]
    rw [hsplit] at hmem hordered
    rcases List.mem_append.mp hmem with hearlier | hlater
    · exact absurd (hbefore _ hearlier) hfound
    rcases List.mem_cons.mp hlater with heq | hafter
    · exact heq.le
    · exact (List.rel_of_pairwise_cons (List.pairwise_append.mp hordered).2.1 hafter).le

theorem units_pos (h : x.isZero = false) : 0 < x.units := by
  have hsignificand : x.significand ≠ 0 := by simpa [isZero] using h
  exact Nat.mul_pos (Nat.pos_of_ne_zero hsignificand) (Nat.two_pow_pos _)

/-- A step of the scale, in quarters of a unit, lies between the lower midpoint and the double. -/
theorem lowerMidpoint_add_two_le (h : x.isZero = false) : x.lowerMidpoint + 2 ≤ 4 * x.units := by
  have hunits := units_pos h
  have hpow := Nat.two_pow_pos x.scale
  have hstep : 2 ^ x.scale ≤ x.units :=
    Nat.le_mul_of_pos_left _ (Nat.pos_of_mul_pos_right (x.units_eq ▸ hunits))
  rw [lowerMidpoint, Nat.pow_eq]
  split
  case isTrue hscale =>
    have htwo : 2 ^ 1 ≤ 2 ^ x.scale := Nat.pow_le_pow_right Nat.two_pos hscale.2
    omega
  case isFalse => omega

theorem magnitude_of_isZero (h : x.isZero = true) : x.magnitude = 0 := by
  have hsignificand : x.significand = 0 := of_decide_eq_true h
  rw [magnitude, units_eq, hsignificand, Nat.zero_mul, Nat.cast_zero, zero_div]

/-- Only zero is read for a numeral without digits. -/
theorem digits_ne_zero_of_reads (h : x.isZero = false) {numeral : Numeral}
    (hreads : x.Reads numeral.toRat) : numeral.digits ≠ 0 := by
  intro hdigits
  have hzero := reads_magnitude ⟨0, by decide⟩
  have hsame : magnitude ⟨0, by decide⟩ = numeral.toRat := by
    rw [Numeral.toRat, hdigits, Nat.cast_zero, zero_mul, magnitude_of_isZero rfl]
  rw [hsame] at hzero
  exact (units_pos h).ne (hzero.units_eq hreads)

theorem upperMidpoint_lt_of_scale_le {top : Nat} (h : x.scale ≤ top) :
    x.upperMidpoint < 2 ^ 55 * 2 ^ top := by
  have hscale : 2 ^ x.scale ≤ 2 ^ top := Nat.pow_le_pow_right Nat.two_pos h
  have hunits : (x.significand + 1) * 2 ^ x.scale ≤ 2 ^ 53 * 2 ^ x.scale :=
    Nat.mul_le_mul_right _ x.significand_lt
  have hpow := Nat.two_pow_pos x.scale
  rw [Nat.succ_mul, ← units_eq] at hunits
  rw [upperMidpoint, Nat.pow_eq]
  omega

/-- No numeral of a greater power is read as a double that is not zero. -/
theorem power_le_of_reads (h : x.isZero = false) {numeral : Numeral}
    (hreads : x.Reads numeral.toRat) : numeral.power ≤ 309 := by
  by_contra hpower
  have hscale : x.scale ≤ 2045 := Nat.sub_le_sub_right (Nat.le_of_lt_succ x.finite) 1
  have hlimit : 2 ^ 55 * 2 ^ 2045 ≤ gridStep 310 := by decide +kernel
  have hdigits : 0 < numeral.digits := Nat.pos_of_ne_zero (digits_ne_zero_of_reads h hreads)
  have hgrid : gridStep 310 ≤ gridStep numeral.power := gridStep_le_gridStep (by omega)
  have hscaled : scaled x.upperMidpoint numeral.power = x.upperMidpoint := by
    rw [scaled, Int.toNat_of_nonpos (by omega)]
    exact Nat.mul_one _
  have hupper := (le_scaled_iff ..).mpr hreads.bounds.2
  rw [hscaled] at hupper
  have hstep : gridStep numeral.power ≤ numeral.digits * gridStep numeral.power :=
    Nat.le_mul_of_pos_left _ hdigits
  have := (upperMidpoint_lt_of_scale_le hscale).trans_le (hlimit.trans hgrid)
  omega

/-- The last power that is tried always has a numeral. -/
theorem exists_reads_last (h : x.isZero = false) :
    ∃ numeral : Numeral, numeral.power = -324 ∧ x.Reads numeral.toRat := by
  have hgrid : gridStep (-324) ≤ scaled 2 (-324) := by decide +kernel
  have hbelow := Nat.div_mul_le_self (scaled (4 * x.units) (-324)) (gridStep (-324))
  have habove := Nat.lt_div_mul_add (a := scaled (4 * x.units) (-324)) (gridStep_pos (-324))
  have hlower : scaled x.lowerMidpoint (-324) + scaled 2 (-324) ≤ scaled (4 * x.units) (-324) := by
    rw [scaled, scaled, scaled, ← Nat.add_mul]
    exact Nat.mul_le_mul_right _ (lowerMidpoint_add_two_le h)
  refine ⟨⟨scaled (4 * x.units) (-324) / gridStep (-324), -324⟩, rfl, reads_of_lt ?_ ?_⟩
  · refine lt_of_not_ge fun hle ↦ ?_
    have := (le_scaled_iff ..).mpr hle
    omega
  · refine ((le_scaled_iff ..).mp hbelow).trans_lt ?_
    exact_mod_cast x.lt_upperMidpoint

/-- **The shortest numeral stands on the coarsest grid** on which there is a numeral of the
double. -/
theorem power_le_power_shortest (h : x.isZero = false) {numeral : Numeral}
    (hreads : x.Reads numeral.toRat) : numeral.power ≤ x.shortest.power := by
  rcases Int.lt_or_le numeral.power (-324) with hsmall | hlarge
  · obtain ⟨last, hpower, hlast⟩ := exists_reads_last h
    have hle := le_power_shortest hlast (mem_powers.mpr (by omega))
    omega
  · exact le_power_shortest hreads (mem_powers.mpr ⟨hlarge, power_le_of_reads h hreads⟩)

end Double
end ChatEmbed
