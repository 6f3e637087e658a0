import ChatEmbed.Proofs.Printing

/-!
# How a value stands on several lines

What is printed on several lines is what is printed on one line, with gaps between some characters.
The gaps are a matter of the characters around them and of how many brackets are open:
`Json.layOut` puts them in while it reads the text once, without a look at the value, and
`Json.pretty_eq_layOut` says that this is how values are printed on several lines.
-/

set_option autoImplicit false

namespace ChatEmbed
namespace Json

/-! ## Laying out a text -/

/-- Where a character stands: outside quotes, between them, or there behind a backslash. -/
inductive Place
  | outside
  | quoted
  | escaped
deriving DecidableEq

/-- Where the next character stands. -/
def Place.next : Place → Char → Place
  | .outside, c => if c = '\"' then .quoted else .outside
  | .quoted, c => if c = '\"' then .outside else if c = '\\' then .escaped else .quoted
  | .escaped, _ => .quoted

/-- The opening brackets. -/
def isBracket (c : Char) : Bool := c = '[' || c = '\x7b'

/-- How many brackets are open behind a character. -/
def depthAfter (depth : Nat) (c : Char) : Nat :=
  if isBracket c then depth + 1 else if isClosing c then depth - 1 else depth

/-- A new line within as many brackets. -/
def newLine (depth : Nat) : Text := '\n' :: List.replicate (2 * depth) ' '

/-- The gap that a character leaves behind it: a new line behind an opening bracket and a comma, a
blank behind a colon. -/
def gapBehind (depth : Nat) (previous : Char) : Text :=
  if isBracket previous || previous = ',' then newLine depth
  else if previous = ':' then [' '] else []

/-- The gap between two characters.  A closing bracket is on a new line too, but nothing stands
between brackets that enclose nothing. -/
def gapBetween (depth : Nat) (previous c : Char) : Text :=
  if isClosing c then if isBracket previous then [] else newLine (depth - 1)
  else gapBehind depth previous

/-- The text with gaps between its characters where they are outside quotes. -/
def layOut (depth : Nat) (previous : Char) : Place → Text → Text
  | _, [] => []
  | .outside, c :: s =>
    gapBetween depth previous c ++ c :: layOut (depthAfter depth c) c (Place.next .outside c) s
  | place, c :: s => c :: layOut depth c (place.next c) s

/-! ## Parts of a text -/

/-- Behind the character there is no gap but before a closing bracket. -/
structure Settled (last : Char) : Prop where
  not_bracket : isBracket last = false
  not_comma : last ≠ ','
  not_colon : last ≠ ':'

/-- The second text is how the first one is laid out within brackets, whatever is around it. -/
def LaysOut (depth : Nat) (s t : Text) : Prop :=
  ∀ previous rest, ∃ last, Settled last ∧
    layOut depth previous .outside (s ++ rest) =
      gapBehind depth previous ++ t ++ layOut depth last .outside rest

theorem Settled.gapBehind_eq {last : Char} (h : Settled last) (depth : Nat) :
    gapBehind depth last = [] := by
  rw [gapBehind, h.not_bracket, if_neg (by simpa using h.not_comma), if_neg h.not_colon]

/-- A character that has no part in the layout. -/
def isPlain (c : Char) : Bool :=
  !(isBracket c || isClosing c || c = ',' || c = ':' || c = '\"')

theorem settled_of_isPlain {c : Char} (h : isPlain c = true) : Settled c := by
  simp only [isPlain, Bool.not_eq_true', Bool.or_eq_false_iff, decide_eq_false_iff_not] at h
  exact ⟨h.1.1.1.1, h.1.1.2, h.1.2⟩

theorem layOut_cons_of_isPlain {c : Char} (h : isPlain c = true) (depth : Nat) (previous : Char)
    (s : Text) : layOut depth previous .outside (c :: s) =
      gapBehind depth previous ++ c :: layOut depth c .outside s := by
  simp only [isPlain, Bool.not_eq_true', Bool.or_eq_false_iff, decide_eq_false_iff_not] at h
  obtain ⟨⟨⟨⟨hbracket, hclosing⟩, -⟩, -⟩, hquote⟩ := h
  rw [layOut, gapBetween, depthAfter, hbracket, hclosing, Place.next, if_neg hquote]
  rfl

theorem laysOut_of_isPlain {s : Text} (hne : s ≠ []) (h : ∀ c ∈ s, isPlain c = true) (depth : Nat) :
    LaysOut depth s s := by
  intro previous rest
  induction s generalizing previous with
  | nil => exact absurd rfl hne
  | cons c s ih =>
    have hc := h c List.mem_cons_self
    rw [List.cons_append, layOut_cons_of_isPlain hc]
    cases s with
    | nil => exact ⟨c, settled_of_isPlain hc, by simp⟩
    | cons d s =>
      obtain ⟨last, hlast, hlayOut⟩ :=
        ih (List.cons_ne_nil _ _) (List.forall_mem_of_forall_mem_cons h) c
      refine ⟨last, hlast, ?_⟩
      rw [hlayOut, (settled_of_isPlain hc).gapBehind_eq]
      simp

/-! ## Texts in quotes -/

/-- Between quotes there are no gaps. -/
theorem layOut_quoted_congr (depth : Nat) (previous other : Char) (s : Text) :
    layOut depth previous .quoted s = layOut depth other .quoted s := by
  cases s <;> rfl

theorem layOut_cons_quoted {c : Char} (h : Place.next .quoted c = .quoted) (depth : Nat)
    (previous : Char) (s : Text) :
    layOut depth previous .quoted (c :: s) = c :: layOut depth previous .quoted s := by
  have hcons : layOut depth previous .quoted (c :: s) =
      c :: layOut depth c (Place.next .quoted c) s := rfl
  rw [hcons, h, layOut_quoted_congr depth c previous]

theorem next_hexDigit {n : Nat} (h : n < 16) : Place.next .quoted (hexDigit n) = .quoted := by
  have hall : ∀ n < 16, Place.next .quoted (hexDigit n) = .quoted := by decide
  exact hall n h

/-- An escaped character does not end a text. -/
theorem layOut_escapeChar (c : Char) (depth : Nat) (previous : Char) (rest : Text) :
    layOut depth previous .quoted (escapeChar c ++ rest) =
      escapeChar c ++ layOut depth previous .quoted rest := by
  fun_cases escapeChar c
  case case8 hcontrol =>
    have hcode (s : Text) : layOut depth previous .quoted ('\\' :: 'u' :: '0' :: '0' :: s) =
        '\\' :: 'u' :: '0' :: '0' :: layOut depth '0' .quoted s := rfl
    have hhigh : Place.next .quoted (hexDigit (c.toNat / 16)) = .quoted := next_hexDigit (by omega)
    have hlow : Place.next .quoted (hexDigit (c.toNat % 16)) = .quoted := next_hexDigit (by omega)
    simp only [List.cons_append, List.nil_append]
    rw [hcode, layOut_cons_quoted hhigh, layOut_cons_quoted hlow,
      layOut_quoted_congr depth '0' previous]
  case case9 hquote hslash _ _ _ _ _ _ =>
    exact layOut_cons_quoted (by rw [Place.next, if_neg hquote, if_neg hslash]) depth previous rest
  all_goals exact congrArg _ (congrArg _ (layOut_quoted_congr ..))

theorem layOut_quote (s : Text) (depth : Nat) (previous : Char) (rest : Text) :
    layOut depth previous .outside (quote s ++ rest) =
      gapBehind depth previous ++ quote s ++ layOut depth '\"' .outside rest := by
  have hquoted : layOut depth '\"' .quoted (s.flatMap escapeChar ++ '\"' :: rest) =
      s.flatMap escapeChar ++ '\"' :: layOut depth '\"' .outside rest := by
    induction s with
    | nil => rfl
    | cons c s ih =>
      rw [List.flatMap_cons, List.append_assoc, layOut_escapeChar, ih, List.append_assoc]
  have hopens : layOut depth previous .outside ('\"' :: (s.flatMap escapeChar ++ '\"' :: rest)) =
      gapBehind depth previous ++ '\"' :: layOut depth '\"' .quoted
        (s.flatMap escapeChar ++ '\"' :: rest) := rfl
  simpa [quote, hquoted] using hopens

theorem laysOut_quote (s : Text) (depth : Nat) : LaysOut depth (quote s) (quote s) :=
  fun previous rest ↦ ⟨'\"', ⟨rfl, by decide, by decide⟩, layOut_quote s depth previous rest⟩

/-! ## Lists and objects -/

theorem LaysOut.entry {depth : Nat} {s t : Text} (h : LaysOut depth s t) (key : Text) :
    LaysOut depth (quote key ++ ':' :: s) (quote key ++ ':' :: ' ' :: t) := by
  intro previous rest
  obtain ⟨last, hlast, hlayOut⟩ := h ':' rest
  refine ⟨last, hlast, ?_⟩
  have hcolon : layOut depth '\"' .outside (':' :: (s ++ rest)) =
      ':' :: layOut depth ':' .outside (s ++ rest) := rfl
  have hblank : gapBehind depth ':' = [' '] := rfl
  rw [List.append_assoc, layOut_quote, List.cons_append, hcolon, hlayOut, hblank]
  simp

theorem layOut_comma {previous : Char} (h : Settled previous) (depth : Nat) (rest : Text) :
    layOut depth previous .outside (',' :: rest) = ',' :: layOut depth ',' .outside rest := by
  have hgap : gapBetween depth previous ',' = [] := h.gapBehind_eq depth
  rw [layOut, hgap]
  rfl

theorem layOut_open {left : Char} (h : isBracket left = true) (depth : Nat) (previous : Char)
    (rest : Text) : layOut depth previous .outside (left :: rest) =
      gapBehind depth previous ++ left :: layOut (depth + 1) left .outside rest := by
  simp only [isBracket, Bool.or_eq_true, decide_eq_true_eq] at h
  rcases h with rfl | rfl <;> rfl

/-- The depth behind a closing bracket is the one before the opening one. -/
theorem layOut_close {right : Char} (h : isClosing right = true) (depth : Nat) (previous : Char)
    (rest : Text) : layOut (depth + 1) previous .outside (right :: rest) =
      (if isBracket previous then [] else newLine depth) ++
        right :: layOut depth right .outside rest := by
  simp only [isClosing, Bool.or_eq_true, decide_eq_true_eq] at h
  rcases h with rfl | rfl <;> rfl

theorem settled_of_isClosing {right : Char} (h : isClosing right = true) : Settled right := by
  simp only [isClosing, Bool.or_eq_true, decide_eq_true_eq] at h
  rcases h with rfl | rfl <;> exact ⟨rfl, by decide, by decide⟩

section

variable {α : Type} {f g : α → Text} {parts : List α} {depth : Nat}

theorem LaysOut.join {previous : Char} (hprevious : gapBehind depth previous = newLine depth)
    (hne : parts ≠ []) (hparts : ∀ part ∈ parts, LaysOut depth (f part) (g part)) (rest : Text) :
    ∃ last, Settled last ∧
      layOut depth previous .outside (Text.join [','] (parts.map f) ++ rest) =
        Text.join [','] ((parts.map g).map (newLine depth ++ ·)) ++
          layOut depth last .outside rest := by
  -- the first part stands behind the bracket, all others behind a comma
  induction parts generalizing previous with
  | nil => exact absurd rfl hne
  | cons part others ih =>
    have hpart := hparts part List.mem_cons_self
    cases others with
    | nil =>
      obtain ⟨last, hlast, hlayOut⟩ := hpart previous rest
      exact ⟨last, hlast, by simpa [Text.join, hprevious] using hlayOut⟩
    | cons next others =>
      obtain ⟨middle, hmiddle, hlayOut⟩ :=
        hpart previous (',' :: (Text.join [','] ((next :: others).map f) ++ rest))
      have hcomma : gapBehind depth ',' = newLine depth := rfl
      obtain ⟨last, hlast, hrest⟩ :=
        ih hcomma (List.cons_ne_nil _ _) (List.forall_mem_of_forall_mem_cons hparts)
      refine ⟨last, hlast, ?_⟩
      rw [layOut_comma hmiddle, hrest, hprevious] at hlayOut
      simpa [Text.join] using hlayOut

theorem LaysOut.enclosed {left right : Char} (hleft : isBracket left = true)
    (hright : isClosing right = true)
    (hparts : ∀ part ∈ parts, LaysOut (depth + 1) (f part) (g part)) :
    LaysOut depth (left :: Text.join [','] (parts.map f) ++ [right])
      (bracket left right depth (parts.map g)) := by
  intro previous rest
  refine ⟨right, settled_of_isClosing hright, ?_⟩
  rw [List.cons_append, List.cons_append, layOut_open hleft, List.append_assoc,
    List.singleton_append, bracket]
  by_cases hne : parts = []
  · subst hne
    have hclose := layOut_close hright depth left rest
    rw [hleft] at hclose
    simpa [Text.join] using hclose
  · have hline : gapBehind (depth + 1) left = newLine (depth + 1) := by
      rw [gapBehind, hleft]
      rfl
    obtain ⟨last, hlast, hjoin⟩ := LaysOut.join hline hne hparts (right :: rest)
    have hempty : (parts.map g).isEmpty = false := by simpa using hne
    rw [hjoin, layOut_close hright, hlast.not_bracket, hempty]
    simp [newLine, indentation]

end

theorem isPlain_of_isNumeric {c : Char} (h : isNumeric c = true) : isPlain c = true := by
  by_contra hplain
  simp only [isPlain, isBracket, isClosing, Bool.not_eq_true, Bool.not_eq_false', Bool.or_eq_true,
    decide_eq_true_eq, or_assoc] at hplain
  rcases hplain with rfl | rfl | rfl | rfl | rfl | rfl | rfl <;> exact absurd h (by decide)

/-- A number has no gaps in it. -/
theorem laysOut_number {value : Json} (h : opening value = '0') (depth : Nat) :
    LaysOut depth (compact value) (compact value) := by
  have hspells := spells_compact value
  obtain ⟨c, s, hs, -⟩ := hspells.exists_cons
  exact laysOut_of_isPlain (by simp [hs])
    (fun c hc ↦ isPlain_of_isNumeric (hspells.isNumeric h c hc)) depth

/-- **Every value is laid out.** -/
theorem laysOut_compact (value : Json) (depth : Nat) :
    LaysOut depth (compact value) (prettyAt depth value) := by
  induction value using tree_induction generalizing depth with
  | null => exact laysOut_of_isPlain (s := "null") (by decide) (List.all_eq_true.mp rfl) depth
  | bool value =>
    cases value with
    | true => exact laysOut_of_isPlain (s := "true") (by decide) (List.all_eq_true.mp rfl) depth
    | false => exact laysOut_of_isPlain (s := "false") (by decide) (List.all_eq_true.mp rfl) depth
  | number value => exact laysOut_number rfl depth
  | real value => exact laysOut_number rfl depth
  | text value => exact laysOut_quote value depth
  | list items ih =>
    rw [compact_list, prettyAt_list]
    exact .enclosed rfl rfl fun item hitem ↦ ih item hitem (depth + 1)
  | object entries ih =>
    rw [compact_object, prettyAt_object]
    exact .enclosed rfl rfl fun entry hentry ↦ (ih entry hentry (depth + 1)).entry entry.1

/-- **What is printed on several lines is what is printed on one line, laid out.** -/
theorem pretty_eq_layOut (value : Json) :
    pretty value = layOut 0 '\n' .outside (compact value) := by
  obtain ⟨last, -, hlayOut⟩ := laysOut_compact value 0 '\n' []
  rw [List.append_nil] at hlayOut
  rw [hlayOut, pretty]
  exact (List.append_nil _).symm

end Json
end ChatEmbed
