/-!
# Text as a list of characters

Everything the library reads or writes is a `Text`: a list of characters, so that a statement about
a document is a statement about lists.

* `byteSize` counts bytes of the UTF-8 form, the unit of positions in a document.
* `dropStart?` and `dropEnd?` take a given text off one end.
* `cut?` splits a text at the first occurrence of a character, `pieces` at all of them.
* `join` is the way back from pieces to a text.
-/

set_option autoImplicit false

namespace ChatEmbed

/-- A text is the list of its characters. -/
abbrev Text := List Char

namespace Text

/-- A string literal stands for the text of its characters. -/
instance : Coe String Text := ⟨String.toList⟩

/-- The number of bytes of the UTF-8 form. -/
def byteSize : Text → Nat
  | [] => 0
  | c :: r => c.utf8Size + byteSize r

@[simp] theorem byteSize_nil : byteSize [] = 0 := rfl

@[simp] theorem byteSize_cons (c : Char) (r : Text) : byteSize (c :: r) = c.utf8Size + byteSize r :=
  rfl

@[simp] theorem byteSize_append (s t : Text) : byteSize (s ++ t) = byteSize s + byteSize t := by
  induction s with
  | nil => simp
  | cons c r ih => simp [ih, Nat.add_assoc]

/-! ## Taking a text off one end -/

/-- What follows `start` in `s`, if `s` begins with it. -/
def dropStart? : Text → Text → Option Text
  | [], s => some s
  | _ :: _, [] => none
  | a :: start, c :: s => if a = c then dropStart? start s else none

/-- `dropStart?` answers exactly when the text begins as asked. -/
theorem dropStart?_eq_some_iff {start s r : Text} : dropStart? start s = some r ↔ s = start ++ r := by
  induction start generalizing s with
  | nil => simp [dropStart?, eq_comm]
  | cons a start ih =>
    cases s with
    | nil => simp [dropStart?]
    | cons c s =>
      rw [dropStart?]
      split
      · next h => subst h; simp [ih]
      · next h => simp [Ne.symm h]

/-- What precedes `stop` in `s`, if `s` ends with it. -/
def dropEnd? (stop s : Text) : Option Text :=
  (dropStart? stop.reverse s.reverse).map List.reverse

/-- `dropEnd?` answers exactly when the text ends as asked. -/
theorem dropEnd?_eq_some_iff {stop s r : Text} : dropEnd? stop s = some r ↔ s = r ++ stop := by
  simp only [dropEnd?, Option.map_eq_some_iff, dropStart?_eq_some_iff]
  constructor
  · rintro ⟨u, hu, rfl⟩
    simpa using congrArg List.reverse hu
  · rintro rfl
    exact ⟨r.reverse, by simp, by simp⟩

/-! ## Splitting and joining -/

/-- The parts before and after the first `sep`, if there is one. -/
def cut? (sep : Char) : Text → Option (Text × Text)
  | [] => none
  | c :: r => if c = sep then some ([], r) else (cut? sep r).map fun (a, b) => (c :: a, b)

/-- A text without the separator cannot be cut, and only such a text. -/
theorem cut?_eq_none_iff {sep : Char} {s : Text} : cut? sep s = none ↔ sep ∉ s := by
  induction s with
  | nil => simp [cut?]
  | cons c r ih =>
    rw [cut?]
    split
    · next h => simp [h]
    · next h => simp [ih, Ne.symm h]

/-- The two parts of a cut, with the separator between them, are the text, and the first part holds
no separator. -/
theorem cut?_eq_some_iff {sep : Char} {s a b : Text} :
    cut? sep s = some (a, b) ↔ s = a ++ sep :: b ∧ sep ∉ a := by
  induction s generalizing a with
  | nil => simp [cut?]
  | cons c r ih =>
    rw [cut?]
    split
    · next h =>
      subst h
      cases a with
      | nil => simp
      | cons x a =>
        simp only [Option.some.injEq, Prod.mk.injEq, List.cons_append, List.cons.injEq,
          List.mem_cons, not_or]
        constructor
        · rintro ⟨h, -⟩; cases h
        · rintro ⟨⟨rfl, -⟩, h, -⟩; exact absurd rfl h
    · next h =>
      cases a with
      | nil =>
        simp only [Option.map_eq_some_iff, Prod.exists, Prod.mk.injEq, List.nil_append,
          List.cons.injEq, List.not_mem_nil, not_false_eq_true, and_true]
        constructor
        · rintro ⟨x, y, -, hx, -⟩; cases hx
        · rintro ⟨hc, -⟩; exact absurd hc h
      | cons x a =>
        simp only [Option.map_eq_some_iff, Prod.exists, Prod.mk.injEq, List.cons.injEq,
          List.cons_append, List.mem_cons, not_or]
        constructor
        · rintro ⟨u, v, huv, ⟨rfl, rfl⟩, rfl⟩
          obtain ⟨rfl, hm⟩ := ih.1 huv
          exact ⟨⟨rfl, rfl⟩, Ne.symm h, hm⟩
        · rintro ⟨⟨rfl, rfl⟩, -, hm⟩
          exact ⟨a, b, ih.2 ⟨rfl, hm⟩, ⟨rfl, rfl⟩, rfl⟩

/-- The pieces between separators; a text without a separator is its only piece. -/
def pieces (sep : Char) : Text → List Text
  | [] => [[]]
  | c :: r =>
    if c = sep then [] :: pieces sep r
    else match pieces sep r with
      | [] => [[c]]
      | p :: ps => (c :: p) :: ps

/-- A text has at least one piece. -/
theorem pieces_ne_nil (sep : Char) (s : Text) : pieces sep s ≠ [] := by
  cases s with
  | nil => simp [pieces]
  | cons c r =>
    rw [pieces]
    split
    · simp
    · split <;> simp

/-- The texts written one after the other with `sep` between them. -/
def join (sep : Text) : List Text → Text
  | [] => []
  | [s] => s
  | s :: r => s ++ sep ++ join sep r

/-- Joining the pieces again gives the text. -/
theorem join_pieces (sep : Char) (s : Text) : join [sep] (pieces sep s) = s := by
  induction s with
  | nil => rfl
  | cons c r ih =>
    rw [pieces]
    have hne := pieces_ne_nil sep r
    cases hp : pieces sep r with
    | nil => exact absurd hp hne
    | cons p ps =>
      rw [hp] at ih
      split
      · next h =>
        subst h
        simpa [join] using ih
      · cases ps with
        | nil => simpa [join] using ih
        | cons q qs => simpa [join] using ih

/-- No piece holds a separator. -/
theorem not_mem_of_mem_pieces {sep : Char} {s p : Text} (h : p ∈ pieces sep s) : sep ∉ p := by
  induction s generalizing p with
  | nil =>
    rw [pieces, List.mem_singleton] at h
    simp [h]
  | cons c r ih =>
    rw [pieces] at h
    split at h
    · rcases List.mem_cons.mp h with rfl | hp
      · exact List.not_mem_nil
      · exact ih hp
    · next hc =>
      cases hpieces : pieces sep r with
      | nil => exact absurd hpieces (pieces_ne_nil sep r)
      | cons first others =>
        rw [hpieces] at h ih
        rcases List.mem_cons.mp h with rfl | hp
        · rw [List.mem_cons, not_or]
          exact ⟨Ne.symm hc, ih List.mem_cons_self⟩
        · exact ih (List.mem_cons_of_mem _ hp)

/-- A text without a separator is its only piece. -/
theorem pieces_of_not_mem {sep : Char} {s : Text} (h : sep ∉ s) : pieces sep s = [s] := by
  induction s with
  | nil => rfl
  | cons c r ih =>
    rw [List.mem_cons, not_or] at h
    obtain ⟨hc, hr⟩ := h
    rw [pieces, if_neg (Ne.symm hc), ih hr]

/-- A separator ends the first piece. -/
theorem pieces_append_cons {sep : Char} {s : Text} (h : sep ∉ s) (rest : Text) :
    pieces sep (s ++ sep :: rest) = s :: pieces sep rest := by
  induction s with
  | nil => rw [List.nil_append, pieces, if_pos rfl]
  | cons c r ih =>
    rw [List.mem_cons, not_or] at h
    obtain ⟨hc, hr⟩ := h
    rw [List.cons_append, pieces, if_neg (Ne.symm hc), ih hr]

/-- Texts without a separator are the pieces of the text they make. -/
theorem pieces_join {sep : Char} {texts : List Text} (hne : texts ≠ [])
    (h : ∀ t ∈ texts, sep ∉ t) : pieces sep (join [sep] texts) = texts := by
  induction texts with
  | nil => exact absurd rfl hne
  | cons first others ih =>
    obtain ⟨hfirst, hothers⟩ := List.forall_mem_cons.mp h
    cases others with
    | nil => exact pieces_of_not_mem hfirst
    | cons second rest =>
      rw [join, List.append_assoc, List.singleton_append, pieces_append_cons hfirst,
        ih (List.cons_ne_nil second rest) hothers]
      exact List.cons_ne_nil second rest

end Text
end ChatEmbed
