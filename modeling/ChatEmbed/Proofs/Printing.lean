import ChatEmbed.Proofs.Grammar
import ChatEmbed.Proofs.Program

/-!
# Printed values are read as themselves

* `Json.spells_writeReal` says that a number in double precision is printed as a numeral that is read
  as this number, whichever of the four shapes of a numeral is chosen.
* `Json.spells_compact` and `Json.spells_pretty` say that what is printed on one line or on several
  is a written form of the value in the sense of `Json.Spells`, and of no other one.
* `Program.printed_inj` is what this means for whoever runs the program: its output tells the value,
  whether or not it was asked to be compact.
-/

set_option autoImplicit false

namespace ChatEmbed
namespace Json

/-! ## Texts -/

theorem hexValue?_hexDigit {n : Nat} (h : n < 16) : hexValue? (hexDigit n) = some n := by
  have hall : ∀ n < 16, hexValue? (hexDigit n) = some n := by decide
  exact hall n h

/-- **A character is escaped so that it can be read again.** -/
theorem spells_escapeChar (c : Char) : SpellsChar c (escapeChar c) := by
  fun_cases escapeChar c
  case case1 h | case2 h | case3 h | case4 h | case5 h =>
    cases h
    exact .letter rfl
  case case6 h => exact .letter (congrArg some (Char.toNat_inj.mp h.symm))
  case case7 h => exact .letter (congrArg some (Char.toNat_inj.mp h.symm))
  case case8 hcontrol =>
    have hzero : hexValue? '0' = some 0 := rfl
    exact .code (.digits hzero hzero (hexValue?_hexDigit (by omega)) (hexValue?_hexDigit (by omega))
      (by omega))
  case case9 hquote hslash _ _ _ _ _ hcontrol =>
    exact .plain (Nat.le_of_not_lt hcontrol) hquote hslash

theorem spells_quote (s : Text) : ∃ t, quote s = '\"' :: t ∧ SpellsText s t := by
  refine ⟨s.flatMap escapeChar ++ ['\"'], rfl, ?_⟩
  induction s with
  | nil => exact .close
  | cons c s ih =>
    rw [List.flatMap_cons, List.append_assoc]
    exact .cons (spells_escapeChar c) ih

/-! ## Numbers -/

section

open Text

theorem isWhole_of_head? {s : Text} (h : IsNumeral s) (hhead : s.head? ≠ some '0') : IsWhole s :=
  ⟨h, fun hzero ↦ absurd hzero hhead⟩

theorem isWhole_zero : IsWhole ['0'] :=
  ⟨⟨List.cons_ne_nil _ _, List.forall_mem_singleton.mpr rfl⟩, fun _ ↦ rfl⟩

theorem value_append_zeros (s : Text) (count : Nat) :
    value (s ++ zeros count) = 10 ^ count * value s :=
  (Nat.ofDigitChars_append 0).trans Nat.ofDigitChars_replicate_zero

theorem isDigit_zeros (count : Nat) : ∀ c ∈ zeros count, c.isDigit = true := by
  intro c hc
  rw [List.eq_of_mem_replicate hc]
  rfl

/-- A part of a numeral that is not empty is whole if the numeral begins with it. -/
theorem isWhole_of_digits {n : Nat} (hn : n ≠ 0) {s t : Text} (h : digits n = s ++ t)
    (hs : s ≠ []) : IsWhole s := by
  refine isWhole_of_head? ⟨hs, fun c hc ↦ ?_⟩ ?_
  · exact (isNumeral_digits n).digits c (h ▸ List.mem_append_left t hc)
  · rw [← List.head?_append_of_ne_nil _ hs, ← h]
    exact head?_digits hn

theorem isNumeral_of_digits {n : Nat} {s t : Text} (h : digits n = s ++ t) (ht : t ≠ []) :
    IsNumeral t :=
  ⟨ht, fun c hc ↦ (isNumeral_digits n).digits c (h ▸ List.mem_append_right s hc)⟩

/-- The point may stand anywhere between the digits. -/
theorem decimal_split {n : Nat} (hn : n ≠ 0) {s t : Text} (h : digits n = s ++ t) (hs : s ≠ [])
    (ht : t ≠ []) : Decimal (s ++ '.' :: t) (n / 10 ^ t.length) := by
  have hdecimal := Decimal.point (isWhole_of_digits hn h hs) (isNumeral_of_digits h ht)
  rwa [← h, value_digits] at hdecimal

theorem fixed_split {n : Nat} (hn : n ≠ 0) {s t : Text} (h : digits n = s ++ t) (hs : s ≠ []) :
    Fixed (s ++ if t = [] then [] else '.' :: t) (n / 10 ^ t.length) := by
  have hwhole := isWhole_of_digits hn h hs
  split
  case isTrue hnil =>
    have hfixed := Fixed.whole hwhole
    rw [hnil, List.append_nil] at h
    rw [hnil, List.append_nil, List.length_nil, pow_zero, div_one]
    rwa [← h, value_digits, h] at hfixed
  case isFalse hne =>
    have hfixed := Fixed.point hwhole (isNumeral_of_digits h hne)
    rwa [← h, value_digits] at hfixed

end

theorem toRat_eq {digits count : Nat} {power shift : Int} (h : power = shift - count) :
    (digits / 10 ^ count * 10 ^ shift : ℚ) = (⟨digits, power⟩ : Double.Numeral).toRat := by
  rw [Double.Numeral.toRat, h, zpow_sub₀ (by norm_num), zpow_natCast]
  ring

section

open Text

variable {n : Nat} {power : Int}

theorem decimal_full (hn : n ≠ 0) (hpower : 0 ≤ power) :
    Decimal (digits n ++ zeros power.toNat ++ ".0") (⟨n, power⟩ : Double.Numeral).toRat := by
  obtain ⟨count, rfl⟩ := Int.eq_ofNat_of_zero_le hpower
  have hdigits := isNumeral_digits n
  have hwhole : IsWhole (digits n ++ zeros count) := isWhole_of_head?
    ⟨List.append_ne_nil_of_left_ne_nil hdigits.nonempty _,
      List.forall_mem_append.mpr ⟨hdigits.digits, isDigit_zeros count⟩⟩
    (by rw [List.head?_append_of_ne_nil _ hdigits.nonempty]; exact head?_digits hn)
  have hvalue : value (digits n ++ zeros count ++ zeros 1) = 10 * (10 ^ count * n) := by
    rw [value_append_zeros, value_append_zeros, value_digits, pow_one]
  have hdecimal := Decimal.point hwhole (t := zeros 1) isWhole_zero.toIsNumeral
  have hrat : (⟨n, count⟩ : Double.Numeral).toRat = (10 * (10 ^ count * n) : Nat) / 10 ^ 1 := by
    rw [Double.Numeral.toRat, zpow_natCast]
    push_cast
    ring
  rw [hvalue] at hdecimal
  exact hrat ▸ hdecimal

theorem decimal_inside (hn : n ≠ 0) (hpower : power < 0) {before : Int}
    (hbefore : before = (digits n).length + power) (hpos : 0 < before) :
    Decimal ((digits n).take before.toNat ++ '.' :: (digits n).drop before.toNat)
      (⟨n, power⟩ : Double.Numeral).toRat := by
  have hsplit := decimal_split hn (List.take_append_drop before.toNat (digits n)).symm
    (List.ne_nil_of_length_pos (by rw [List.length_take]; omega))
    (List.ne_nil_of_length_pos (by rw [List.length_drop]; omega))
  have hcount : power = 0 - ((digits n).drop before.toNat).length := by
    rw [List.length_drop]
    omega
  rwa [← toRat_eq hcount, zpow_zero, mul_one]

theorem decimal_small {before : Int} (hbefore : before = (digits n).length + power)
    (hneg : before ≤ 0) :
    Decimal ("0." ++ zeros (-before).toNat ++ digits n) (⟨n, power⟩ : Double.Numeral).toRat := by
  have hdigits := isNumeral_digits n
  have hdecimal := Decimal.point isWhole_zero (t := zeros (-before).toNat ++ digits n)
    ⟨List.append_ne_nil_of_right_ne_nil _ hdigits.nonempty,
      List.forall_mem_append.mpr ⟨isDigit_zeros _, hdigits.digits⟩⟩
  have hvalue : value (['0'] ++ (zeros (-before).toNat ++ digits n)) = n :=
    (value_zeros ((-before).toNat + 1) (digits n)).trans (value_digits n)
  have hcount : power = 0 - (zeros (-before).toNat ++ digits n).length := by
    rw [List.length_append, zeros, List.length_replicate]
    omega
  rw [hvalue] at hdecimal
  rw [← toRat_eq hcount, zpow_zero, mul_one, List.append_assoc]
  exact hdecimal

theorem denotes_signed (exponent : Int) :
    Denotes ((if 0 < exponent + 1 then ['+'] else []) ++ ofInt exponent) exponent := by
  cases exponent with
  | ofNat exponent =>
    have hplus := Denotes.plus (isNumeral_digits exponent)
    rw [value_digits] at hplus
    have hpos : 0 < Int.ofNat exponent + 1 := Int.lt_add_one_of_le (Int.natCast_nonneg exponent)
    rwa [if_pos hpos]
  | negSucc exponent =>
    rw [if_neg (by omega)]
    exact denotes_ofInt (.negSucc exponent)

theorem decimal_scaled (hn : n ≠ 0) {before : Int} (hbefore : before = (digits n).length + power) :
    Decimal ((digits n).take 1 ++
        (if (digits n).drop 1 = [] then [] else '.' :: (digits n).drop 1) ++
        'e' :: (if 0 < before then ['+'] else []) ++ ofInt (before - 1))
      (⟨n, power⟩ : Double.Numeral).toRat := by
  have hlength : 0 < (digits n).length := List.length_pos_iff.mpr (isNumeral_digits n).nonempty
  have hfixed := fixed_split hn (List.take_append_drop 1 (digits n)).symm
    (List.ne_nil_of_length_pos (by rw [List.length_take]; omega))
  have hexponent := denotes_signed (before - 1)
  have hcount : power = (before - 1) - ((digits n).drop 1).length := by
    rw [List.length_drop]
    omega
  rw [Int.sub_add_cancel] at hexponent
  rw [← toRat_eq hcount, List.append_assoc]
  exact .scaled hfixed (.inl rfl) hexponent

end

/-- **A numeral is printed as its number**, with or without an exponent. -/
theorem decimal_writeNumeral {numeral : Double.Numeral} (h : numeral.digits ≠ 0) :
    (writeNumeral numeral).Decimal numeral.toRat := by
  rw [writeNumeral]
  dsimp only
  split
  case isTrue hfull => exact decimal_full h hfull.1
  split
  case isTrue hinside => exact decimal_inside h (by omega) rfl hinside.1
  split
  case isTrue hsmall => exact decimal_small rfl hsmall.2
  case isFalse => exact decimal_scaled h rfl

/-- **A double is printed as a numeral that is read as this double.** -/
theorem spells_writeReal (value : Double) : value.Spells (writeReal value) := by
  have hdecimal : ∃ q, (if value.isZero then ['0', '.', '0'] else
      writeNumeral value.shortest : Text).Decimal q ∧ value.Reads q := by
    split
    case isTrue hzero =>
      have hvalue : (Text.value ['0', '0'] / 10 ^ 1 : ℚ) = value.magnitude :=
        (zero_div _).trans (Double.magnitude_of_isZero hzero).symm
      have hdecimal := Text.Decimal.point isWhole_zero isWhole_zero.toIsNumeral
      exact ⟨_, hdecimal, hvalue ▸ value.reads_magnitude⟩
    case isFalse hnonzero =>
      have hreads := value.reads_shortest
      rw [Bool.not_eq_true] at hnonzero
      exact ⟨_, decimal_writeNumeral (Double.digits_ne_zero_of_reads hnonzero hreads), hreads⟩
  obtain ⟨q, hdecimal, hreads⟩ := hdecimal
  rw [writeReal]
  split
  case isTrue hsign => exact .negative hsign hdecimal hreads
  case isFalse hsign => exact .positive (Bool.not_eq_true _ ▸ hsign) hdecimal hreads

/-- One digit is enough for the least positive double. -/
example : writeReal ⟨1, by decide⟩ = "5e-324".toList := by decide +kernel

/-! ## Lists and objects -/

theorem compact_list (items : List Json) :
    compact (.list items) = '[' :: Text.join [','] (items.map compact) ++ [']'] := by
  have hitems : compactItems items = items.map compact := by
    induction items with
    | nil => rfl
    | cons item rest ih => rw [compactItems, List.map_cons, ih]
  rw [compact, hitems]

theorem compact_object (entries : Entries) :
    compact (.object entries) = '\x7b' :: Text.join [',']
      (entries.map fun entry ↦ quote entry.1 ++ ':' :: compact entry.2) ++ ['\x7d'] := by
  have hentries : compactEntries entries =
      entries.map fun entry ↦ quote entry.1 ++ ':' :: compact entry.2 := by
    induction entries with
    | nil => rfl
    | cons entry rest ih => rw [compactEntries, List.map_cons, ih]
  rw [compact, hentries]

theorem prettyAt_list (depth : Nat) (items : List Json) :
    prettyAt depth (.list items) = bracket '[' ']' depth (items.map (prettyAt (depth + 1))) := by
  have hitems : prettyItems (depth + 1) items = items.map (prettyAt (depth + 1)) := by
    induction items with
    | nil => rfl
    | cons item rest ih => rw [prettyItems, List.map_cons, ih]
  rw [prettyAt, hitems]

theorem prettyAt_object (depth : Nat) (entries : Entries) :
    prettyAt depth (.object entries) = bracket '\x7b' '\x7d' depth
      (entries.map fun entry ↦ quote entry.1 ++ ':' :: ' ' :: prettyAt (depth + 1) entry.2) := by
  have hentries : prettyEntries (depth + 1) entries =
      entries.map fun entry ↦ quote entry.1 ++ ':' :: ' ' :: prettyAt (depth + 1) entry.2 := by
    induction entries with
    | nil => rfl
    | cons entry rest ih => rw [prettyEntries, List.map_cons, ih]
  rw [prettyAt, hentries]

theorem gap_nil : Gap [] := List.forall_mem_nil _

theorem gap_line (depth : Nat) : Gap ('\n' :: indentation depth) := by
  refine List.forall_mem_cons.mpr ⟨rfl, fun c hc ↦ ?_⟩
  rw [List.eq_of_mem_replicate hc]
  rfl

theorem spells_entry {entry : Text × Json} {gap s : Text} (hgap : Gap gap) (h : Spells entry.2 s) :
    SpellsEntry entry (quote entry.1 ++ ':' :: (gap ++ s)) := by
  obtain ⟨key, hkey, hspells⟩ := spells_quote entry.1
  have hentry := SpellsEntry.entry hspells gap_nil hgap h
  rw [hkey]
  simpa using hentry

section

variable {α : Type} {P : α → Text → Prop} {f : α → Text} {parts : List α}

/-- Parts with commas between them, each behind the same gap. -/
theorem listed_join {before after : Text} (hbefore : Gap before) (hafter : Gap after)
    (close : Char) (hne : parts ≠ []) (hparts : ∀ part ∈ parts, P part (f part)) :
    Listed P close parts
      (Text.join [','] ((parts.map f).map (before ++ ·)) ++ after ++ [close]) := by
  induction parts with
  | nil => exact absurd rfl hne
  | cons part rest ih =>
    have hpart := hparts part List.mem_cons_self
    cases rest with
    | nil => exact .last hbefore hpart hafter
    | cons next rest =>
      have hrest := ih (List.cons_ne_nil _ _) (List.forall_mem_of_forall_mem_cons hparts)
      have hlisted := Listed.cons hbefore hpart gap_nil hrest
      simpa [Text.join] using hlisted

theorem enclosed_join (close : Char) (hparts : ∀ part ∈ parts, P part (f part)) :
    Enclosed P close parts (Text.join [','] (parts.map f) ++ [close]) := by
  by_cases hne : parts = []
  · rw [hne]
    exact .empty gap_nil
  · have hlisted := listed_join gap_nil gap_nil close hne hparts
    exact .filled (by simpa [Function.comp_def] using hlisted)

theorem enclosed_bracket (left right : Char) (depth : Nat)
    (hparts : ∀ part ∈ parts, P part (f part)) :
    ∃ s, bracket left right depth (parts.map f) = left :: s ∧ Enclosed P right parts s := by
  rw [bracket]
  by_cases hne : parts = []
  · rw [hne]
    exact ⟨[right], rfl, .empty gap_nil⟩
  · have hlisted := listed_join (gap_line (depth + 1)) (gap_line depth) right hne hparts
    rw [if_neg (by simpa using hne)]
    exact ⟨_, rfl, .filled (by simpa using hlisted)⟩

end

/-- **What is printed on one line is the value.** -/
theorem spells_compact (value : Json) : Spells value (compact value) := by
  induction value using tree_induction with
  | null => exact .null
  | bool value =>
    cases value with
    | true => exact .boolTrue
    | false => exact .boolFalse
  | number value => exact .number value
  | real value => exact .real (spells_writeReal value)
  | text value =>
    obtain ⟨s, hs, hspells⟩ := spells_quote value
    rw [compact, hs]
    exact .text hspells
  | list items ih =>
    rw [compact_list]
    exact .list (enclosed_join ']' ih)
  | object entries ih =>
    rw [compact_object]
    exact .object (enclosed_join '\x7d' fun entry hentry ↦ spells_entry gap_nil (ih entry hentry))

/-- **What is printed on several lines is the value**, wherever its first line stands. -/
theorem spells_prettyAt (depth : Nat) (value : Json) : Spells value (prettyAt depth value) := by
  induction value using tree_induction generalizing depth with
  | null => exact spells_compact .null
  | bool value => exact spells_compact (.bool value)
  | number value => exact spells_compact (.number value)
  | real value => exact spells_compact (.real value)
  | text value => exact spells_compact (.text value)
  | list items ih =>
    obtain ⟨s, hs, henclosed⟩ := enclosed_bracket '[' ']' depth
      fun item hitem ↦ ih item hitem (depth + 1)
    rw [prettyAt_list, hs]
    exact .list henclosed
  | object entries ih =>
    have hblank : Gap [' '] := List.forall_mem_singleton.mpr rfl
    obtain ⟨s, hs, henclosed⟩ := enclosed_bracket '\x7b' '\x7d' depth
      fun entry hentry ↦ spells_entry hblank (ih entry hentry (depth + 1))
    rw [prettyAt_object]
    exact hs ▸ .object henclosed

theorem spells_pretty (value : Json) : Spells value (pretty value) := spells_prettyAt 0 value

end Json

namespace Program

/-- **What the program prints for a value is the value**, with a line feed behind it. -/
theorem spells_printed (compact : Bool) (value : Json) :
    ∃ s, printed compact value = s ++ ['\n'] ∧ value.Spells s := by
  refine ⟨_, rfl, ?_⟩
  split
  · exact value.spells_compact
  · exact value.spells_pretty

/-- **The output tells the value**, even if it is not known how it was asked for. -/
theorem printed_inj {compact other : Bool} {v w : Json} (h : printed compact v = printed other w) :
    v = w := by
  obtain ⟨s, hs, hv⟩ := spells_printed compact v
  obtain ⟨t, ht, hw⟩ := spells_printed other w
  rw [hs, ht] at h
  rw [List.append_cancel_right h] at hv
  exact hv.unique hw

end Program
end ChatEmbed
