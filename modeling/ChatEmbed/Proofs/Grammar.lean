import ChatEmbed.Json.Printer
import ChatEmbed.Proofs.Doubles
import ChatEmbed.Proofs.Json
import ChatEmbed.Proofs.Numerals

/-!
# The grammar of JSON

`Json.Spells` relates a value to the texts that are written forms of it, `Json.unambiguous_spells`
says that no text is a written form of two values, and `Spells.unique` is what this means for texts
as a whole.  The grammar has three layers.

* `Text.Decimal` are numbers with a fraction or an exponent.  A number without either is held
  exactly, all others are read as the nearest double (`Double.Spells`).
* `Json.SpellsText` are texts up to their closing quote.  A character stands for itself or is
  escaped, by a letter or by its code in the 16-bit form.
* `Json.Enclosed` is the inside of brackets up to the closing one, with commas between the parts and
  gaps around them.

Each layer is told apart from what follows it.  Texts and brackets have a character that ends them; a
number ends before the first character that cannot go on with it (`Text.append_inj_of_head?`).
-/

set_option autoImplicit false

namespace ChatEmbed

namespace Text

/-! ## Where a part ends -/

section

variable {p : Char → Bool} {a b r q : Text}

theorem takeWhile_append_of_head? (ha : ∀ c ∈ a, p c = true) (hr : ∀ c ∈ r.head?, p c = false) :
    (a ++ r).takeWhile p = a := by
  rw [List.takeWhile_append_of_pos ha]
  cases r with
  | nil => exact List.append_nil a
  | cons c r => rw [List.takeWhile_cons_of_neg (by simp [hr c rfl]), List.append_nil]

/-- A part ends where characters of another sort begin. -/
theorem append_inj_of_head? (h : a ++ r = b ++ q) (ha : ∀ c ∈ a, p c = true)
    (hb : ∀ c ∈ b, p c = true) (hr : ∀ c ∈ r.head?, p c = false)
    (hq : ∀ c ∈ q.head?, p c = false) : a = b ∧ r = q := by
  have hab : a = b := by
    rw [← takeWhile_append_of_head? ha hr, h, takeWhile_append_of_head? hb hq]
  subst hab
  exact ⟨rfl, List.append_cancel_left h⟩

end

/-! ## Numbers -/

/-- The digits before the point: no zero stands in front of others. -/
structure IsWhole (s : Text) : Prop extends IsNumeral s where
  unpadded : s.head? = some '0' → s = ['0']

/-- The text is a number without an exponent. -/
inductive Fixed : Text → ℚ → Prop
  | whole {s : Text} (h : IsWhole s) : Fixed s (value s)
  | point {s t : Text} (h : IsWhole s) (ht : IsNumeral t) :
      Fixed (s ++ '.' :: t) (value (s ++ t) / 10 ^ t.length)

/-- The text is a number with a fraction or an exponent. -/
inductive Decimal : Text → ℚ → Prop
  | point {s t : Text} (h : IsWhole s) (ht : IsNumeral t) :
      Decimal (s ++ '.' :: t) (value (s ++ t) / 10 ^ t.length)
  | scaled {s t : Text} {q : ℚ} {n : Int} {mark : Char} (h : Fixed s q)
      (hmark : mark = 'e' ∨ mark = 'E') (ht : Denotes t n) : Decimal (s ++ mark :: t) (q * 10 ^ n)

theorem IsWhole.exists_cons {s : Text} (h : IsWhole s) : ∃ c r, s = c :: r ∧ c.isDigit = true := by
  obtain ⟨c, r, rfl⟩ := List.exists_cons_of_ne_nil h.nonempty
  exact ⟨c, r, rfl, h.digits c List.mem_cons_self⟩

theorem Fixed.exists_cons {s : Text} {q : ℚ} (h : Fixed s q) :
    ∃ c r, s = c :: r ∧ c.isDigit = true := by
  cases h with
  | whole h => exact h.exists_cons
  | point h ht =>
    obtain ⟨c, r, rfl, hc⟩ := h.exists_cons
    exact ⟨c, _, rfl, hc⟩

theorem Decimal.exists_cons {s : Text} {q : ℚ} (h : Decimal s q) :
    ∃ c r, s = c :: r ∧ c.isDigit = true := by
  cases h with
  | point h ht => exact (Fixed.point h ht).exists_cons
  | scaled h hmark ht =>
    obtain ⟨c, r, rfl, hc⟩ := h.exists_cons
    exact ⟨c, _, rfl, hc⟩

/-- Whether a character can stand before the exponent. -/
def isFixed (c : Char) : Bool := c.isDigit || c = '.'

theorem Fixed.isFixed {s : Text} {q : ℚ} (h : Fixed s q) : ∀ c ∈ s, Text.isFixed c = true := by
  have hnumeral {s : Text} (h : IsNumeral s) : ∀ c ∈ s, Text.isFixed c = true := fun c hc ↦ by
    rw [Text.isFixed, h.digits c hc, Bool.true_or]
  cases h with
  | whole h => exact hnumeral h.toIsNumeral
  | point h ht =>
    exact List.forall_mem_append.mpr ⟨hnumeral h.toIsNumeral, List.forall_mem_cons.mpr
      ⟨rfl, hnumeral ht⟩⟩

theorem isFixed_mark {mark : Char} (h : mark = 'e' ∨ mark = 'E') : isFixed mark = false := by
  rcases h with rfl | rfl <;> decide

theorem IsWhole.point_inj {s s' t t' : Text} (h : IsWhole s) (h' : IsWhole s')
    (heq : s ++ '.' :: t = s' ++ '.' :: t') : s = s' ∧ t = t' := by
  have hpoint (t : Text) : ∀ c ∈ ('.' :: t).head?, c.isDigit = false := by
    rintro c ⟨⟩
    decide
  obtain ⟨hs, ht⟩ := append_inj_of_head? heq h.digits h'.digits (hpoint t) (hpoint t')
  exact ⟨hs, List.tail_eq_of_cons_eq ht⟩

theorem Fixed.unique {s : Text} {q r : ℚ} (hq : Fixed s q) (hr : Fixed s r) : q = r := by
  generalize hs : s = s' at hr
  cases hq with
  | whole h =>
    cases hr with
    | whole => rw [hs]
    | point h' =>
      have hdigit := h.digits '.' (by simp [hs])
      cases hdigit
  | point h ht =>
    cases hr with
    | whole h' =>
      have hdigit := h'.digits '.' (by simp [← hs])
      cases hdigit
    | point h' =>
      obtain ⟨rfl, rfl⟩ := h.point_inj h' hs
      rfl

theorem Decimal.unique {s : Text} {q r : ℚ} (hq : Decimal s q) (hr : Decimal s r) : q = r := by
  generalize hs : s = s' at hr
  cases hq with
  | point h ht =>
    have hfixed := (Fixed.point h ht).isFixed
    cases hr with
    | point h' =>
      obtain ⟨rfl, rfl⟩ := h.point_inj h' hs
      rfl
    | @scaled _ _ _ _ mark _ hmark =>
      have hmarked := hfixed mark (by simp [hs])
      rw [isFixed_mark hmark] at hmarked
      cases hmarked
  | @scaled _ t _ _ mark h hmark ht =>
    cases hr with
    | point h' ht' =>
      have hmarked := (Fixed.point h' ht').isFixed mark (by simp [← hs])
      rw [isFixed_mark hmark] at hmarked
      cases hmarked
    | @scaled _ t' _ _ mark' h' hmark' ht' =>
      obtain ⟨rfl, hrest⟩ := append_inj_of_head? hs h.isFixed h'.isFixed
        (by rintro c ⟨⟩; exact isFixed_mark hmark) (by rintro c ⟨⟩; exact isFixed_mark hmark')
      cases hrest
      rw [h.unique h', ht.unique ht']

end Text

/-- The text is a number with a fraction or an exponent that is read as the double. -/
inductive Double.Spells (x : Double) : Text → Prop
  | positive {s : Text} {q : ℚ} (sign : x.isNegative = false) (h : s.Decimal q) (reads : x.Reads q) :
      Spells x s
  | negative {s : Text} {q : ℚ} (sign : x.isNegative = true) (h : s.Decimal q) (reads : x.Reads q) :
      Spells x ('-' :: s)

theorem Double.Spells.unique {x y : Double} {s : Text} (hx : x.Spells s) (hy : y.Spells s) :
    x = y := by
  have hsigned {s : Text} {q : ℚ} (h : Text.Decimal ('-' :: s) q) : False := by
    obtain ⟨c, r, hs, hc⟩ := h.exists_cons
    cases hs
    cases hc
  cases hx with
  | positive sign h reads =>
    cases hy with
    | positive sign' h' reads' =>
      exact eq_of_units_eq (reads.units_eq (h.unique h' ▸ reads')) (sign.trans sign'.symm)
    | negative => exact (hsigned h).elim
  | negative sign h reads =>
    cases hy with
    | positive sign' h' => exact (hsigned h').elim
    | negative sign' h' reads' =>
      exact eq_of_units_eq (reads.units_eq (h.unique h' ▸ reads')) (sign.trans sign'.symm)

namespace Json

/-! ## Texts in quotes -/

/-- The character that a letter stands for after a backslash. -/
def escaped? (letter : Char) : Option Char :=
  if letter = '\"' ∨ letter = '\\' ∨ letter = '/' then some letter
  else if letter = 'b' then some '\x08'
  else if letter = 'f' then some '\x0c'
  else if letter = 'n' then some '\n'
  else if letter = 'r' then some '\r'
  else if letter = 't' then some '\t'
  else none

/-- The value of a hexadecimal digit. -/
def hexValue? (c : Char) : Option Nat :=
  if c.isDigit then some (c.toNat - '0'.toNat)
  else if 'a' ≤ c ∧ c ≤ 'f' then some (c.toNat - 'a'.toNat + 10)
  else if 'A' ≤ c ∧ c ≤ 'F' then some (c.toNat - 'A'.toNat + 10)
  else none

/-- A code of sixteen bits, as four hexadecimal digits after a backslash and the letter `u`. -/
inductive SpellsCode (code : Nat) : Text → Prop
  | digits {a b c d : Char} {i j k l : Nat} (ha : hexValue? a = some i) (hb : hexValue? b = some j)
      (hc : hexValue? c = some k) (hd : hexValue? d = some l)
      (hcode : code = 16 * (16 * (16 * i + j) + k) + l) : SpellsCode code ['\\', 'u', a, b, c, d]

/-- The text is a character between quotes. -/
inductive SpellsChar (c : Char) : Text → Prop
  | plain (hcontrol : 32 ≤ c.toNat) (hquote : c ≠ '\"') (hslash : c ≠ '\\') : SpellsChar c [c]
  | letter {letter : Char} (h : escaped? letter = some c) : SpellsChar c ['\\', letter]
  | code {s : Text} (h : SpellsCode c.toNat s) : SpellsChar c s
  /-- A character beyond the first `2 ^ 16` has two codes, ten bits in each. -/
  | codes {high low : Nat} {s t : Text} (hhigh : 0xD800 ≤ high ∧ high < 0xDC00)
      (hlow : 0xDC00 ≤ low ∧ low < 0xE000)
      (hc : c.toNat = 0x10000 + 0x400 * (high - 0xD800) + (low - 0xDC00))
      (hs : SpellsCode high s) (ht : SpellsCode low t) : SpellsChar c (s ++ t)

/-- The text is what stands for another one from behind the opening quote on. -/
inductive SpellsText : Text → Text → Prop
  | close : SpellsText [] ['\"']
  | cons {c : Char} {rest s t : Text} (hc : SpellsChar c s) (hrest : SpellsText rest t) :
      SpellsText (c :: rest) (s ++ t)

section

variable {code code' : Nat} {c d : Char} {s t r q : Text}

theorem SpellsCode.unique (h : SpellsCode code s) (h' : SpellsCode code' t) (heq : s ++ r = t ++ q) :
    code = code' ∧ s = t := by
  cases h with
  | digits ha hb hc hd hcode =>
    cases h' with
    | digits ha' hb' hc' hd' hcode' =>
      cases heq
      rw [hcode, hcode', Option.some.inj (ha.symm.trans ha'), Option.some.inj (hb.symm.trans hb'),
        Option.some.inj (hc.symm.trans hc'), Option.some.inj (hd.symm.trans hd')]
      exact ⟨rfl, rfl⟩

/-- A character has no code that is one half of a pair. -/
theorem SpellsCode.not_half (h : SpellsCode c.toNat s) (h' : SpellsCode code t)
    (heq : s ++ r = t ++ q) : ¬(0xD800 ≤ code ∧ code < 0xDC00) := by
  rw [← (h.unique h' heq).1]
  have hvalid : c.toNat < 0xD800 ∨ 0xDFFF < c.toNat ∧ c.toNat < 0x110000 := c.valid
  omega

/-- **Only one character stands at the beginning of a text**, and in one way. -/
theorem SpellsChar.unique (h : SpellsChar c s) (h' : SpellsChar d t) (heq : s ++ r = t ++ q) :
    c = d ∧ s = t := by
  cases h with
  | plain _ _ hslash =>
    cases h' with
    | plain => cases heq; exact ⟨rfl, rfl⟩
    | letter => cases heq; exact absurd rfl hslash
    | code h' => cases h'; cases heq; exact absurd rfl hslash
    | codes _ _ _ hs' => cases hs'; cases heq; exact absurd rfl hslash
  | letter h =>
    cases h' with
    | plain _ _ hslash => cases heq; exact absurd rfl hslash
    | letter h' => cases heq; exact ⟨Option.some.inj (h.symm.trans h'), rfl⟩
    | code h' => cases h'; cases heq; cases h
    | codes _ _ _ hs' => cases hs'; cases heq; cases h
  | code h =>
    cases h' with
    | plain _ _ hslash => cases h; cases heq; exact absurd rfl hslash
    | letter h' => cases h; cases heq; cases h'
    | code h' =>
      obtain ⟨hcode, rfl⟩ := h.unique h' heq
      exact ⟨Char.toNat_inj.mp hcode, rfl⟩
    | codes hhigh _ _ hs' =>
      rw [List.append_assoc] at heq
      exact absurd hhigh (h.not_half hs' heq)
  | codes hhigh _ hc hs ht =>
    cases h' with
    | plain _ _ hslash => cases hs; cases heq; exact absurd rfl hslash
    | letter h' => cases hs; cases heq; cases h'
    | code h' =>
      rw [List.append_assoc] at heq
      exact absurd hhigh (h'.not_half hs heq.symm)
    | codes _ _ hc' hs' ht' =>
      rw [List.append_assoc, List.append_assoc] at heq
      obtain ⟨rfl, rfl⟩ := hs.unique hs' heq
      obtain ⟨rfl, rfl⟩ := ht.unique ht' (List.append_cancel_left heq)
      exact ⟨Char.toNat_inj.mp (hc.trans hc'.symm), rfl⟩

/-- A character does not begin with the quote that ends a text. -/
theorem SpellsChar.append_ne_quote (h : SpellsChar c s) : s ++ r ≠ '\"' :: q := by
  intro heq
  cases h with
  | plain _ hquote => cases heq; exact absurd rfl hquote
  | letter => cases heq
  | code h => cases h; cases heq
  | codes _ _ _ hs => cases hs; cases heq

/-- **A text ends at its closing quote**, and is the only one that is written so. -/
theorem SpellsText.unique {a b : Text} (h : SpellsText a s) (h' : SpellsText b t)
    (heq : s ++ r = t ++ q) : a = b ∧ s = t := by
  induction h generalizing b t with
  | close =>
    cases h' with
    | close => exact ⟨rfl, rfl⟩
    | cons hc' =>
      rw [List.append_assoc] at heq
      exact absurd heq.symm hc'.append_ne_quote
  | cons hc _ ih =>
    cases h' with
    | close =>
      rw [List.append_assoc] at heq
      exact absurd heq hc.append_ne_quote
    | cons hc' hrest' =>
      rw [List.append_assoc, List.append_assoc] at heq
      obtain ⟨rfl, rfl⟩ := hc.unique hc' heq
      obtain ⟨rfl, rfl⟩ := ih hrest' (List.append_cancel_left heq)
      exact ⟨rfl, rfl⟩

end

/-! ## Brackets -/

/-- A character that may stand between the parts of a value. -/
def isGap (c : Char) : Bool := c = ' ' || c = '\n' || c = '\r' || c = '\t'

/-- The text may stand between the parts of a value. -/
def Gap (s : Text) : Prop := ∀ c ∈ s, isGap c = true

section

variable {α : Type} (P : α → Text → Prop) (close : Char)

/-- One or more parts up to the closing bracket, with commas between them and gaps around each. -/
inductive Listed : List α → Text → Prop
  | last {a : α} {before s after : Text} (hbefore : Gap before) (hs : P a s) (hafter : Gap after) :
      Listed [a] (before ++ s ++ after ++ [close])
  | cons {a : α} {rest : List α} {before s after t : Text} (hbefore : Gap before) (hs : P a s)
      (hafter : Gap after) (hrest : Listed rest t) :
      Listed (a :: rest) (before ++ s ++ after ++ ',' :: t)

/-- The inside of brackets up to the closing one. -/
inductive Enclosed : List α → Text → Prop
  | empty {gap : Text} (h : Gap gap) : Enclosed [] (gap ++ [close])
  | filled {parts : List α} {s : Text} (h : Listed P close parts s) : Enclosed parts s

end

mutual

/-- The text is a written form of the value. -/
inductive Spells : Json → Text → Prop
  | null : Spells .null "null"
  | boolTrue : Spells (.bool true) "true"
  | boolFalse : Spells (.bool false) "false"
  /-- A number without a point and an exponent. -/
  | number (value : Int) : Spells (.number value) (Text.ofInt value)
  /-- A number with a point, an exponent or both. -/
  | real {value : Double} {s : Text} (h : value.Spells s) : Spells (.real value) s
  | text {value s : Text} (h : SpellsText value s) : Spells (.text value) ('\"' :: s)
  | list {items : List Json} {s : Text} (h : Enclosed Spells ']' items s) :
      Spells (.list items) ('[' :: s)
  | object {entries : List (Text × Json)} {s : Text} (h : Enclosed SpellsEntry '\x7d' entries s) :
      Spells (.object entries) ('\x7b' :: s)

/-- The text is a key, a colon and a written form of the value. -/
inductive SpellsEntry : Text × Json → Text → Prop
  | entry {key s before after t : Text} {value : Json} (hkey : SpellsText key s)
      (hbefore : Gap before) (hafter : Gap after) (hvalue : Spells value t) :
      SpellsEntry (key, value) ('\"' :: s ++ before ++ ':' :: after ++ t)

end

/-! ## Where a value ends -/

/-- A character that a number can go on with. -/
def isNumeric (c : Char) : Bool := Text.isFixed c || c = '-' || c = '+' || c = 'e' || c = 'E'

/-- What follows a value does not go on with a number. -/
def Ends (rest : Text) : Prop := ∀ c ∈ rest.head?, isNumeric c = false

theorem ends_nil : Ends [] := by
  intro c hc
  cases hc

/-- The closing brackets. -/
def isClosing (c : Char) : Bool := c = ']' || c = '\x7d'

/-- The text begins with a character that neither stands between parts nor ends them. -/
def Opens (s : Text) : Prop := ∃ c r, s = c :: r ∧ isGap c = false ∧ isClosing c = false

/-- No text that begins with one of the part's forms begins with that of another part. -/
def Unambiguous {α : Type} (P : α → Text → Prop) (a : α) : Prop :=
  ∀ ⦃b s t r q⦄, P a s → P b t → Ends r → Ends q → s ++ r = t ++ q → a = b ∧ s = t

section

variable {before after before' after' s t r q : Text} {c d : Char}

theorem Gap.ends (h : Gap after) (hc : isNumeric c = false) : Ends (after ++ c :: r) := by
  cases after with
  | nil =>
    rintro _ ⟨⟩
    exact hc
  | cons d after =>
    rintro _ ⟨⟩
    have hgap := h d List.mem_cons_self
    simp only [isGap, Bool.or_eq_true, decide_eq_true_eq] at hgap
    rcases hgap with ((rfl | rfl) | rfl) | rfl <;> rfl

/-- A gap ends where the next character is visible. -/
theorem Gap.append_inj (h : Gap before) (h' : Gap before') (hc : isGap c = false)
    (hd : isGap d = false) (heq : before ++ c :: r = before' ++ d :: q) :
    before = before' ∧ c = d ∧ r = q := by
  obtain ⟨hbefore, hrest⟩ := Text.append_inj_of_head? heq h h' (by rintro _ ⟨⟩; exact hc)
    (by rintro _ ⟨⟩; exact hd)
  exact ⟨hbefore, List.cons.inj hrest⟩

theorem Gap.append_inj_of_opens (h : Gap before) (h' : Gap before') (hs : Opens s) (ht : Opens t)
    (heq : before ++ s ++ r = before' ++ t ++ q) : before = before' ∧ s ++ r = t ++ q := by
  obtain ⟨c, s, rfl, hc, -⟩ := hs
  obtain ⟨d, t, rfl, hd, -⟩ := ht
  rw [List.append_assoc, List.append_assoc] at heq
  obtain ⟨hbefore, rfl, hrest⟩ := h.append_inj h' hc hd heq
  exact ⟨hbefore, congrArg _ hrest⟩

end

section

variable {α : Type} {P : α → Text → Prop} {close : Char}

/-- A part between two gaps, up to the character that ends it. -/
theorem Unambiguous.part_inj {a b : α} {before s after before' t after' r q : Text} {c d : Char}
    (ha : Unambiguous P a) (hopens : ∀ a s, P a s → Opens s) (hbefore : Gap before)
    (hs : P a s) (hafter : Gap after) (hbefore' : Gap before') (ht : P b t) (hafter' : Gap after')
    (hc : isGap c = false ∧ isNumeric c = false) (hd : isGap d = false ∧ isNumeric d = false)
    (heq : before ++ s ++ after ++ c :: r = before' ++ t ++ after' ++ d :: q) :
    before = before' ∧ a = b ∧ s = t ∧ after = after' ∧ c = d ∧ r = q := by
  rw [List.append_assoc _ after, List.append_assoc _ after'] at heq
  obtain ⟨hbefore, hrest⟩ :=
    hbefore.append_inj_of_opens hbefore' (hopens a s hs) (hopens b t ht) heq
  obtain ⟨hab, rfl⟩ := ha hs ht (hafter.ends hc.2) (hafter'.ends hd.2) hrest
  exact ⟨hbefore, hab, rfl, hafter.append_inj hafter' hc.1 hd.1 (List.append_cancel_left hrest)⟩

theorem of_isClosing {c : Char} (h : isClosing c = true) :
    isGap c = false ∧ isNumeric c = false ∧ c ≠ ',' := by
  simp only [isClosing, Bool.or_eq_true, decide_eq_true_eq] at h
  rcases h with rfl | rfl <;> decide

theorem Listed.unique {as bs : List α} {s t r q : Text} (h : Listed P close as s)
    (h' : Listed P close bs t) (hopens : ∀ a s, P a s → Opens s) (hclose : isClosing close = true)
    (hall : ∀ a ∈ as, Unambiguous P a) (heq : s ++ r = t ++ q) : as = bs ∧ s = t := by
  obtain ⟨hgap, hnumeric, hcomma⟩ := of_isClosing hclose
  have hcommas : isGap ',' = false ∧ isNumeric ',' = false := by decide
  induction h generalizing bs t with
  | last hbefore hs hafter =>
    have ha := hall _ List.mem_cons_self
    cases h' with
    | last hbefore' ht hafter' =>
      obtain ⟨rfl, rfl, rfl, rfl, -⟩ := ha.part_inj hopens hbefore hs hafter hbefore' ht hafter'
        ⟨hgap, hnumeric⟩ ⟨hgap, hnumeric⟩ (by simpa using heq)
      exact ⟨rfl, rfl⟩
    | cons hbefore' ht hafter' hrest' =>
      obtain ⟨-, -, -, -, hends, -⟩ := ha.part_inj hopens hbefore hs hafter hbefore' ht hafter'
        ⟨hgap, hnumeric⟩ hcommas (by simpa using heq)
      exact absurd hends hcomma
  | cons hbefore hs hafter hrest ih =>
    have ha := hall _ List.mem_cons_self
    cases h' with
    | last hbefore' ht hafter' =>
      obtain ⟨-, -, -, -, hends, -⟩ := ha.part_inj hopens hbefore hs hafter hbefore' ht hafter'
        hcommas ⟨hgap, hnumeric⟩ (by simpa using heq)
      exact absurd hends.symm hcomma
    | cons hbefore' ht hafter' hrest' =>
      obtain ⟨rfl, rfl, rfl, rfl, -, hrests⟩ := ha.part_inj hopens hbefore hs hafter hbefore' ht
        hafter' hcommas hcommas (by simpa using heq)
      obtain ⟨rfl, rfl⟩ := ih hrest' (List.forall_mem_of_forall_mem_cons hall) hrests
      exact ⟨rfl, rfl⟩

theorem Opens.append {s : Text} (h : Opens s) (rest : Text) : Opens (s ++ rest) := by
  obtain ⟨c, r, rfl, hc⟩ := h
  exact ⟨c, r ++ rest, rfl, hc⟩

/-- Every list of parts begins with a gap and the first part. -/
theorem Listed.exists_opens {as : List α} {s : Text} (h : Listed P close as s)
    (hopens : ∀ a s, P a s → Opens s) : ∃ before t, s = before ++ t ∧ Gap before ∧ Opens t := by
  cases h with
  | @last _ before s after hbefore hs =>
    exact ⟨before, s ++ (after ++ [close]), by rw [List.append_assoc, List.append_assoc], hbefore,
      (hopens _ _ hs).append _⟩
  | @cons _ _ before s after t hbefore hs =>
    exact ⟨before, s ++ (after ++ ',' :: t), by rw [List.append_assoc, List.append_assoc], hbefore,
      (hopens _ _ hs).append _⟩

/-- The brackets are not closed where a part begins. -/
theorem Listed.append_ne_close {as : List α} {gap s r q : Text} (h : Listed P close as s)
    (hopens : ∀ a s, P a s → Opens s) (hclose : isClosing close = true) (hgap : Gap gap) :
    s ++ r ≠ gap ++ close :: q := by
  intro heq
  obtain ⟨before, _, rfl, hbefore, c, t, rfl, hc, hcloses⟩ := h.exists_opens hopens
  obtain ⟨-, rfl, -⟩ := hbefore.append_inj hgap hc (of_isClosing hclose).1 (by simpa using heq)
  rw [hclose] at hcloses
  cases hcloses

theorem Enclosed.unique {as bs : List α} {s t r q : Text} (h : Enclosed P close as s)
    (h' : Enclosed P close bs t) (hopens : ∀ a s, P a s → Opens s) (hclose : isClosing close = true)
    (hall : ∀ a ∈ as, Unambiguous P a) (heq : s ++ r = t ++ q) : as = bs ∧ s = t := by
  have hgap := (of_isClosing hclose).1
  cases h with
  | empty h =>
    cases h' with
    | empty h' =>
      obtain ⟨rfl, -⟩ := h.append_inj h' hgap hgap (by simpa using heq)
      exact ⟨rfl, rfl⟩
    | filled h' =>
      exact absurd (by simpa using heq.symm) (h'.append_ne_close hopens hclose h)
  | filled h =>
    cases h' with
    | empty h' =>
      exact absurd (by simpa using heq) (h.append_ne_close hopens hclose h')
    | filled h' => exact h.unique h' hopens hclose hall heq

end

/-! ## Numbers end -/

theorem isNumeric_of_isDigit {c : Char} (h : c.isDigit = true) : isNumeric c = true := by
  rw [isNumeric, Text.isFixed, h]
  rfl

theorem isNumeric_of_denotes {s : Text} {n : Int} (h : Text.Denotes s n) :
    ∀ c ∈ s, isNumeric c = true := by
  cases h with
  | plain hs => exact fun c hc ↦ isNumeric_of_isDigit (hs.digits c hc)
  | plus hs =>
    exact List.forall_mem_cons.mpr ⟨rfl, fun c hc ↦ isNumeric_of_isDigit (hs.digits c hc)⟩
  | minus hs =>
    exact List.forall_mem_cons.mpr ⟨rfl, fun c hc ↦ isNumeric_of_isDigit (hs.digits c hc)⟩

theorem isNumeric_of_fixed {s : Text} {q : ℚ} (h : s.Fixed q) : ∀ c ∈ s, isNumeric c = true := by
  intro c hc
  rw [isNumeric, h.isFixed c hc]
  rfl

theorem isNumeric_of_decimal {s : Text} {q : ℚ} (h : s.Decimal q) :
    ∀ c ∈ s, isNumeric c = true := by
  cases h with
  | point hs ht => exact isNumeric_of_fixed (.point hs ht)
  | scaled h hmark ht =>
    refine List.forall_mem_append.mpr ⟨isNumeric_of_fixed h, List.forall_mem_cons.mpr
      ⟨?_, isNumeric_of_denotes ht⟩⟩
    rcases hmark with rfl | rfl <;> rfl

theorem isNumeric_of_spells {x : Double} {s : Text} (h : x.Spells s) :
    ∀ c ∈ s, isNumeric c = true := by
  cases h with
  | positive _ h => exact isNumeric_of_decimal h
  | negative _ h => exact List.forall_mem_cons.mpr ⟨rfl, isNumeric_of_decimal h⟩

/-- Whole numbers are written with digits only, and all others with a point or an exponent. -/
theorem not_spells_ofInt {x : Double} {n : Int} : ¬x.Spells (Text.ofInt n) := by
  have hwhole : ∀ c ∈ Text.ofInt n, c.isDigit = true ∨ c = '-' := by
    cases n with
    | ofNat n => exact fun c hc ↦ .inl ((Text.isNumeral_digits n).digits c hc)
    | negSucc n =>
      exact List.forall_mem_cons.mpr
        ⟨.inr rfl, fun c hc ↦ .inl ((Text.isNumeral_digits (n + 1)).digits c hc)⟩
  intro h
  generalize Text.ofInt n = s at h hwhole
  have hmark {t : Text} {q : ℚ} (hsub : t ⊆ s) (h : t.Decimal q) : False := by
    cases h with
    | point => exact absurd (hwhole '.' (hsub (by simp))) (by decide)
    | @scaled _ _ _ _ mark _ hmark =>
      have := hwhole mark (hsub (by simp))
      rcases hmark with rfl | rfl <;> exact absurd this (by decide)
  cases h with
  | positive _ h => exact hmark (List.Subset.refl _) h
  | negative _ h => exact hmark (List.subset_cons_self ..) h

/-! ## Values -/

/-- The first character of a value, where zero stands for all digits and the sign. -/
def opening : Json → Char
  | .null => 'n'
  | .bool true => 't'
  | .bool false => 'f'
  | .number _ => '0'
  | .real _ => '0'
  | .text _ => '\"'
  | .list _ => '['
  | .object _ => '\x7b'

/-- The character that stands for all those which values of one sort begin with. -/
def sortOf (c : Char) : Char := if c.isDigit || c = '-' then '0' else c

theorem sortOf_of_isDigit {c : Char} (h : c.isDigit = true) : sortOf c = '0' := by
  rw [sortOf, h]
  rfl

theorem Spells.exists_cons {v : Json} {s : Text} (h : Spells v s) :
    ∃ c r, s = c :: r ∧ sortOf c = opening v := by
  cases h with
  | null => exact ⟨_, _, rfl, rfl⟩
  | boolTrue => exact ⟨_, _, rfl, rfl⟩
  | boolFalse => exact ⟨_, _, rfl, rfl⟩
  | number value =>
    cases value with
    | ofNat n =>
      obtain ⟨c, r, hs⟩ := List.exists_cons_of_ne_nil (Text.isNumeral_digits n).nonempty
      exact ⟨c, r, hs, sortOf_of_isDigit ((Text.isNumeral_digits n).digits c (by simp [hs]))⟩
    | negSucc n => exact ⟨_, _, rfl, rfl⟩
  | real h =>
    cases h with
    | positive _ h =>
      obtain ⟨c, r, hs, hc⟩ := h.exists_cons
      exact ⟨c, r, hs, sortOf_of_isDigit hc⟩
    | negative => exact ⟨_, _, rfl, rfl⟩
  | text => exact ⟨_, _, rfl, rfl⟩
  | list => exact ⟨_, _, rfl, rfl⟩
  | object => exact ⟨_, _, rfl, rfl⟩

theorem opening_mem (v : Json) : opening v ∈ ['n', 't', 'f', '0', '\"', '[', '\x7b'] := by
  cases v with
  | bool value => cases value <;> simp [opening]
  | _ => simp [opening]

theorem Spells.opens {v : Json} {s : Text} (h : Spells v s) : Opens s := by
  obtain ⟨c, r, rfl, hc⟩ := h.exists_cons
  refine ⟨c, r, rfl, ?_⟩
  by_contra hopens
  have hmem := opening_mem v
  rw [← hc] at hmem
  simp only [isGap, isClosing, ← Bool.or_eq_false_iff, Bool.not_eq_false, Bool.or_eq_true,
    decide_eq_true_eq, or_assoc] at hopens
  rcases hopens with rfl | rfl | rfl | rfl | rfl | rfl <;> exact absurd hmem (by decide)

theorem SpellsEntry.opens {entry : Text × Json} {s : Text} (h : SpellsEntry entry s) : Opens s := by
  cases h with
  | entry => exact ⟨_, _, rfl, by decide⟩

theorem SpellsEntry.unambiguous {key : Text} {value : Json} (h : Unambiguous Spells value) :
    Unambiguous SpellsEntry (key, value) := by
  intro entry s t r q hs ht hr hq heq
  cases hs with
  | entry hkey hbefore hafter hvalue =>
    cases ht with
    | entry hkey' hbefore' hafter' hvalue' =>
      have hcolon : isGap ':' = false := by decide
      simp only [List.cons_append, List.cons.injEq, true_and, List.append_assoc] at heq
      obtain ⟨rfl, rfl⟩ := hkey.unique hkey' heq
      obtain ⟨rfl, -, hrest⟩ :=
        hbefore.append_inj hbefore' hcolon hcolon (List.append_cancel_left heq)
      rw [← List.append_assoc, ← List.append_assoc] at hrest
      obtain ⟨rfl, hvalues⟩ := hafter.append_inj_of_opens hafter' hvalue.opens hvalue'.opens hrest
      obtain ⟨rfl, rfl⟩ := h hvalue hvalue' hr hq hvalues
      exact ⟨rfl, rfl⟩

section

variable {v w : Json} {s t r q : Text}

/-- Values of different sorts do not begin alike. -/
theorem Spells.opening_eq (hs : Spells v s) (ht : Spells w t) (heq : s ++ r = t ++ q) :
    opening v = opening w := by
  obtain ⟨c, s, rfl, hc⟩ := hs.exists_cons
  obtain ⟨d, t, rfl, hd⟩ := ht.exists_cons
  rw [← hc, ← hd, (List.cons.inj heq).1]

theorem Spells.isNumeric (h : Spells v s) (hv : opening v = '0') : ∀ c ∈ s, isNumeric c = true := by
  cases h with
  | number value => exact isNumeric_of_denotes (Text.denotes_ofInt value)
  | real h => exact isNumeric_of_spells h
  | _ => cases hv

theorem Spells.number_unique (h : Spells v s) (h' : Spells w s) (hv : opening v = '0') :
    v = w := by
  have hw := h.opening_eq h' (r := []) (q := []) rfl
  generalize hs : s = s' at h'
  cases h with
  | number value =>
    cases h' with
    | number other =>
      have hvalue := Text.denotes_ofInt value
      rw [hs] at hvalue
      rw [hvalue.unique (Text.denotes_ofInt other)]
    | real h => exact absurd (hs ▸ h) not_spells_ofInt
    | _ => cases hw
  | real h =>
    cases h' with
    | number => exact absurd (hs ▸ h) not_spells_ofInt
    | real h' => rw [h.unique (hs ▸ h')]
    | _ => cases hw
  | _ => cases hv

/-- A number ends where what follows is no part of a number. -/
theorem unambiguous_number (hv : opening v = '0') : Unambiguous Spells v := by
  intro w s t r q hs ht hr hq heq
  have hw := (hs.opening_eq ht heq).symm.trans hv
  obtain ⟨rfl, -⟩ := Text.append_inj_of_head? heq (hs.isNumeric hv) (ht.isNumeric hw) hr hq
  exact ⟨hs.number_unique ht hv, rfl⟩

end

/-- **No text is a written form of two values**, whatever follows it. -/
theorem unambiguous_spells (value : Json) : Unambiguous Spells value := by
  -- both texts have the same first character, which leaves one sort of value for the second one
  induction value using tree_induction with
  | null =>
    intro w s t r q hs ht hr hq heq
    have hopening := hs.opening_eq ht heq
    cases hs
    cases ht <;> cases hopening
    exact ⟨rfl, rfl⟩
  | bool value =>
    intro w s t r q hs ht hr hq heq
    have hopening := hs.opening_eq ht heq
    cases hs <;> cases ht <;> cases hopening <;> exact ⟨rfl, rfl⟩
  | number value => exact unambiguous_number rfl
  | real value => exact unambiguous_number rfl
  | text value =>
    intro w s t r q hs ht hr hq heq
    have hopening := hs.opening_eq ht heq
    cases hs with
    | text h =>
      cases ht with
      | text h' =>
        obtain ⟨rfl, rfl⟩ := h.unique h' (List.cons.inj heq).2
        exact ⟨rfl, rfl⟩
      | _ => cases hopening
  | list items ih =>
    intro w s t r q hs ht hr hq heq
    have hopening := hs.opening_eq ht heq
    cases hs with
    | list h =>
      cases ht with
      | list h' =>
        obtain ⟨rfl, rfl⟩ := h.unique h' (fun _ _ ↦ Spells.opens) rfl ih (List.cons.inj heq).2
        exact ⟨rfl, rfl⟩
      | _ => cases hopening
  | object entries ih =>
    intro w s t r q hs ht hr hq heq
    have hopening := hs.opening_eq ht heq
    cases hs with
    | object h =>
      cases ht with
      | object h' =>
        obtain ⟨rfl, rfl⟩ := h.unique h' (fun _ _ ↦ SpellsEntry.opens) rfl
          (fun entry hentry ↦ SpellsEntry.unambiguous (ih entry hentry)) (List.cons.inj heq).2
        exact ⟨rfl, rfl⟩
      | _ => cases hopening

/-- **A text is a written form of one value at most.** -/
theorem Spells.unique {v w : Json} {s : Text} (hv : Spells v s) (hw : Spells w s) : v = w :=
  (unambiguous_spells v hv hw ends_nil ends_nil rfl).1

end Json
end ChatEmbed
