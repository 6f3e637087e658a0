import ChatEmbed.Proofs.Calendar
import ChatEmbed.Proofs.Numerals
import ChatEmbed.Timestamp

/-!
# What a timestamp says

A timestamp is given as a count of seconds and kept as the written form of a date and a time of day.
This file says what can be read from the written form, and what it has to do with the count.

* `Calendar.SpellsYear` and `DateTime.Spells` are the written form: which numbers stand where, in
  how many digits, and when a year has a sign.  It is read in one way (`DateTime.Spells.unique`).
* `DateTime.spells_write` says that this is what is written of a date and time that there are.
* `Timestamp.read_instant` puts the calendar and the written form together.
-/

set_option autoImplicit false

namespace ChatEmbed
namespace Calendar

/-! ## Years -/

/-- The written form of a year.  A year from 0 to 9999 has four digits.  Any other has a sign, and
at least four digits, the first of which is no zero if there are more. -/
inductive SpellsYear : Int → Text → Prop
  | common {n : Nat} {s : Text} (range : n ≤ 9999) (digits : Text.InDigits 4 s n) :
      SpellsYear n s
  | late {n : Nat} {s : Text} (range : 9999 < n) (numeral : Text.IsNumeral s)
      (value : Text.value s = n) (first : s.head? ≠ some '0') : SpellsYear n ('+' :: s)
  | early {n : Nat} {s : Text} (range : 0 < n) (numeral : Text.IsNumeral s)
      (value : Text.value s = n) (width : 4 ≤ s.length)
      (first : 4 < s.length → s.head? ≠ some '0') : SpellsYear (-n) ('-' :: s)

theorem length_digits_le_four {n : Nat} : (Text.digits n).length ≤ 4 ↔ n ≤ 9999 := by
  rw [Text.digits, Nat.length_toDigits_le_iff (by decide) (by decide)]
  omega

theorem spellsYear_writeYear (year : Int) : SpellsYear year (writeYear year) := by
  cases year with
  | ofNat n =>
    rw [writeYear]
    split
    case isTrue h => exact .common h (Text.inDigits_padded (length_digits_le_four.mpr h))
    case isFalse h =>
      have hwidth : 5 ≤ (Text.digits n).length := Nat.lt_of_not_le (mt length_digits_le_four.mp h)
      exact .late (by omega) (Text.isNumeral_padded 5 n) (Text.value_padded 5 n)
        (Text.head?_padded (by omega) hwidth)
  | negSucc n =>
    have hlength := Text.length_padded 4 (n + 1)
    exact .early (n := n + 1) (by omega) (Text.isNumeral_padded 4 (n + 1))
      (Text.value_padded 4 (n + 1)) (by omega) fun _ ↦ Text.head?_padded (by omega) (by omega)

/-- A written year can be read in one way. -/
theorem SpellsYear.unique {year other : Int} {s : Text} (h : SpellsYear year s)
    (hother : SpellsYear other s) : year = other := by
  cases h with
  | common range digits =>
    cases hother with
    | common _ others => rw [← digits.value_eq, ← others.value_eq]
    | late => exact absurd digits.numeral (Text.IsNumeral.ne_cons (by decide) _)
    | early => exact absurd digits.numeral (Text.IsNumeral.ne_cons (by decide) _)
  | late range numeral value =>
    cases hother with
    | common _ others => exact absurd others.numeral (Text.IsNumeral.ne_cons (by decide) _)
    | late _ _ others => rw [← value, ← others]
  | early range numeral value =>
    cases hother with
    | common _ others => exact absurd others.numeral (Text.IsNumeral.ne_cons (by decide) _)
    | early _ _ others => rw [← value, ← others]

/-! ## Dates and times -/

/-- The written form of a date and time: the year, and all else in two digits. -/
def DateTime.Spells (time : DateTime) (text : Text) : Prop :=
  ∃ year month day hour minute second,
    text = year ++ '-' :: month ++ '-' :: day ++ 'T' :: hour ++ ':' :: minute ++ ':' :: second ++
      ['Z'] ∧
    SpellsYear time.date.year year ∧ Text.InDigits 2 month time.date.month ∧
    Text.InDigits 2 day time.date.day ∧ Text.InDigits 2 hour time.hour ∧
    Text.InDigits 2 minute time.minute ∧ Text.InDigits 2 second time.second

theorem inDigits_two {n : Nat} (h : n < 100) : Text.InDigits 2 (Text.padded 2 n) n := by
  refine Text.inDigits_padded ?_
  rw [Text.digits, Nat.length_toDigits_le_iff (by decide) (by decide)]
  omega

theorem monthLength_le (year : Int) (month : Nat) : monthLength year month ≤ 31 := by
  rw [monthLength]
  split_ifs <;> omega

/-- **What is written of a date and time is its written form.** -/
theorem DateTime.spells_write {time : DateTime} (h : time.Valid) : time.Spells time.write := by
  have hmonth := h.date.month
  have hday := h.date.day
  have hlength := monthLength_le time.date.year time.date.month
  exact ⟨_, _, _, _, _, _, rfl, spellsYear_writeYear _, inDigits_two (by omega),
    inDigits_two (by omega), inDigits_two (h.hour.trans (by decide)),
    inDigits_two (h.minute.trans (by decide)), inDigits_two (h.second.trans (by decide))⟩

/-- What follows a mark in two digits can be told from what is before it. -/
theorem append_two_inj {s t : Text} {mark : Char} {u v : Text} {n m : Nat}
    (hu : Text.InDigits 2 u n) (hv : Text.InDigits 2 v m) (h : s ++ mark :: u = t ++ mark :: v) :
    s = t ∧ n = m := by
  have hlength : (mark :: u).length = (mark :: v).length := by
    rw [List.length_cons, List.length_cons, hu.length_eq, hv.length_eq]
  obtain ⟨hst, huv⟩ := List.append_inj' h hlength
  rw [← hu.value_eq, ← hv.value_eq, (List.cons.inj huv).2]
  exact ⟨hst, rfl⟩

/-- **A written form can be read in one way.** -/
theorem DateTime.Spells.unique {time other : DateTime} {text : Text} (h : time.Spells text)
    (hother : other.Spells text) : time = other := by
  obtain ⟨_, _, _, _, _, _, rfl, hyear, hmonth, hday, hhour, hminute, hsecond⟩ := h
  obtain ⟨_, _, _, _, _, _, heq, hyear', hmonth', hday', hhour', hminute', hsecond'⟩ := hother
  obtain ⟨heq, second⟩ := append_two_inj hsecond hsecond' (List.append_cancel_right heq)
  obtain ⟨heq, minute⟩ := append_two_inj hminute hminute' heq
  obtain ⟨heq, hour⟩ := append_two_inj hhour hhour' heq
  obtain ⟨heq, day⟩ := append_two_inj hday hday' heq
  obtain ⟨rfl, month⟩ := append_two_inj hmonth hmonth' heq
  have year := hyear.unique hyear'
  obtain ⟨⟨_, _, _⟩, _, _, _⟩ := time
  obtain ⟨⟨_, _, _⟩, _, _, _⟩ := other
  subst second minute hour day month year
  rfl

end Calendar

/-! ## Timestamps -/

namespace Timestamp

section

variable {now argument text : Text} (h : Text.trim argument ≠ "$".toList)

include h in
theorem read_eq_some_iff :
    read now argument = some text ↔ ∃ seconds, Text.Denotes (Text.trim argument) seconds ∧
      (first ≤ seconds ∧ seconds ≤ last) ∧ (Calendar.DateTime.ofSeconds seconds).write = text := by
  rw [read, if_neg h, Option.bind_eq_some_iff]
  simp [Text.integer?_eq_some_iff, ofSeconds?, isRepresentable]

include h in
/-- A timestamp that is read is the written form of the date and time of the count given for it. -/
theorem eq_write_of_read {seconds : Int} (hseconds : Text.Denotes (Text.trim argument) seconds)
    (hread : read now argument = some text) :
    text = (Calendar.DateTime.ofSeconds seconds).write := by
  obtain ⟨other, hother, -, rfl⟩ := (read_eq_some_iff h).mp hread
  rw [← hseconds.unique hother]

end

/-- The written form of a count of seconds can be read as its date and time, and in no other way. -/
theorem spells_iff (seconds : Int) (time : Calendar.DateTime) :
    time.Spells (Calendar.DateTime.ofSeconds seconds).write ↔
      time = Calendar.DateTime.ofSeconds seconds := by
  have hspells := Calendar.DateTime.spells_write (Calendar.DateTime.valid_ofSeconds seconds).1
  exact ⟨fun htime ↦ htime.unique hspells, fun htime ↦ htime ▸ hspells⟩

theorem write_ofSeconds_inj {seconds other : Int} :
    (Calendar.DateTime.ofSeconds seconds).write = (Calendar.DateTime.ofSeconds other).write ↔
      seconds = other := by
  refine ⟨fun h ↦ ?_, fun h ↦ h ▸ rfl⟩
  have hspells := (spells_iff other (Calendar.DateTime.ofSeconds other)).mpr rfl
  rw [← h, spells_iff] at hspells
  rw [← (Calendar.DateTime.valid_ofSeconds seconds).2, ← hspells,
    (Calendar.DateTime.valid_ofSeconds other).2]

/-- **Which timestamps there are, and what they say.**  Apart from the sign for the current time, an
argument is a timestamp if it is the numeral of a count of seconds, perhaps with a sign, in the
range of those that can be written.

What is kept of it is the written form of a date and a time of day that there are, and that are so
many seconds after the start of 1970, or before it if the count is negative.  It is the written
form of nothing else and never empty, and two arguments leave the same text exactly if they give
the same count. -/
theorem read_instant (now argument : Text) (h : Text.trim argument ≠ "$".toList) :
    ((∃ text, read now argument = some text) ↔
      ∃ seconds, Text.Denotes (Text.trim argument) seconds ∧
        -8334601228800 ≤ seconds ∧ seconds ≤ 8210266876799) ∧
    (∀ seconds text, Text.Denotes (Text.trim argument) seconds →
      read now argument = some text → text ≠ [] ∧
        ∃ time : Calendar.DateTime, time.Valid ∧ time.secondsSinceEpoch = seconds ∧
          ∀ other : Calendar.DateTime, other.Spells text ↔ other = time) ∧
    ∀ other seconds seconds' text text', Text.trim other ≠ "$".toList →
      Text.Denotes (Text.trim argument) seconds → Text.Denotes (Text.trim other) seconds' →
        read now argument = some text → read now other = some text' →
          (text = text' ↔ seconds = seconds') := by
  refine ⟨?_, fun seconds text hseconds hread ↦ ?_, ?_⟩
  · simp only [read_eq_some_iff h]
    constructor
    · rintro ⟨_, seconds, hseconds, hrange, -⟩
      exact ⟨seconds, hseconds, hrange⟩
    · rintro ⟨seconds, hseconds, hrange⟩
      exact ⟨_, seconds, hseconds, hrange, rfl⟩
  · obtain ⟨hvalid, hcount⟩ := Calendar.DateTime.valid_ofSeconds seconds
    obtain rfl := eq_write_of_read h hseconds hread
    exact ⟨List.append_ne_nil_of_right_ne_nil _ (List.cons_ne_nil _ _), _, hvalid, hcount,
      spells_iff seconds⟩
  · intro other seconds seconds' text text' hother hseconds hseconds' hread hread'
    rw [eq_write_of_read h hseconds hread, eq_write_of_read hother hseconds' hread',
      write_ofSeconds_inj]

/-- The second before the start of year 0, and the first one of year 10000. -/
theorem read_instant_signed :
    (Text.Denotes (Text.trim " -62167219201\t") (-62167219201) ∧
      read [] " -62167219201\t" = some "-0001-12-31T23:59:59Z".toList ∧
      ∃ time : Calendar.DateTime, time.Valid ∧ time.secondsSinceEpoch = -62167219201 ∧
        ∀ other : Calendar.DateTime, other.Spells "-0001-12-31T23:59:59Z" ↔ other = time) ∧
    (Text.Denotes (Text.trim "+0253402300800") 253402300800 ∧
      read [] "+0253402300800" = some "+10000-01-01T00:00:00Z".toList) ∧
    "-0001-12-31T23:59:59Z".toList ≠ "+10000-01-01T00:00:00Z".toList := by
  have hearly : Text.Denotes (Text.trim " -62167219201\t") (-62167219201) :=
    Text.integer?_eq_some_iff.mp (by decide)
  have hlate : Text.Denotes (Text.trim "+0253402300800") 253402300800 :=
    Text.integer?_eq_some_iff.mp (by decide)
  have hreadEarly : read [] " -62167219201\t" = some "-0001-12-31T23:59:59Z".toList := by decide
  have hreadLate : read [] "+0253402300800" = some "+10000-01-01T00:00:00Z".toList := by decide
  obtain ⟨-, hmeaning, hsame⟩ := read_instant [] " -62167219201\t" (by decide)
  have hdiffer := hsame _ _ _ _ _ (by decide) hearly hlate hreadEarly hreadLate
  exact ⟨⟨hearly, hreadEarly, (hmeaning _ _ hearly hreadEarly).2⟩, ⟨hlate, hreadLate⟩,
    mt hdiffer.mp (by decide)⟩

end Timestamp
end ChatEmbed
