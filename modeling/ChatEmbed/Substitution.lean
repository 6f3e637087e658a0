import ChatEmbed.Json.Basic

/-!
# Substitution of tokens

* `Token.firstMatch?` finds the first pair of a list whose token begins a text.
* `Token.replaceAll` goes through a text once from left to right. Where a token begins it writes
  the value and goes on after the token; what it has written is never read again.
* `Json.substitute` does so in every text of a value.
-/

set_option autoImplicit false

namespace ChatEmbed
namespace Token

/-- A token with the value that stands for it. -/
abbrev Pair := Text × Text

/-- The first pair, in the order of the list, whose token is not empty and begins the text. -/
def firstMatch? (pairs : List Pair) (s : Text) : Option Pair :=
  pairs.find? fun pair => !pair.1.isEmpty && pair.1.isPrefixOf s

/-- The text with its tokens replaced, after some characters that belong to a token already
replaced. -/
def replaceAfter (pairs : List Pair) : Nat → Text → Text
  | _, [] => []
  | skip + 1, _ :: rest => replaceAfter pairs skip rest
  | 0, c :: rest =>
    match firstMatch? pairs (c :: rest) with
    | some (token, value) => value ++ replaceAfter pairs (token.length - 1) rest
    | none => c :: replaceAfter pairs 0 rest

/-- The text with its tokens replaced. -/
def replaceAll (pairs : List Pair) (s : Text) : Text :=
  replaceAfter pairs 0 s

@[simp] theorem replaceAll_nil (pairs : List Pair) : replaceAll pairs [] = [] := by
  simp [replaceAll, replaceAfter]

theorem replaceAfter_eq (pairs : List Pair) (skip : Nat) (s : Text) :
    replaceAfter pairs skip s = replaceAll pairs (s.drop skip) := by
  induction s generalizing skip with
  | nil => simp [replaceAfter]
  | cons c rest ih =>
    cases skip with
    | zero => rfl
    | succ skip => rw [replaceAfter, ih, List.drop_succ_cons]

/-- Where no token begins, the character stays. -/
theorem replaceAll_cons_of_none {pairs : List Pair} {c : Char} {rest : Text}
    (h : firstMatch? pairs (c :: rest) = none) :
    replaceAll pairs (c :: rest) = c :: replaceAll pairs rest := by
  rw [replaceAll, replaceAfter, h]
  rfl

/-- Where a token begins, its value stands, and the text goes on after the token. -/
theorem replaceAll_append_of_some {pairs : List Pair} {token value rest : Text}
    (h : firstMatch? pairs (token ++ rest) = some (token, value)) :
    replaceAll pairs (token ++ rest) = value ++ replaceAll pairs rest := by
  cases token with
  | nil =>
    have := List.find?_some h
    simp at this
  | cons c token =>
    rw [List.cons_append] at h ⊢
    rw [replaceAll, replaceAfter, h]
    simp only [List.length_cons, Nat.add_sub_cancel, replaceAfter_eq, List.drop_left]

end Token

/-- The value with the tokens of every text replaced; keys stay as they are. -/
def Json.substitute (pairs : List Token.Pair) (value : Json) : Json :=
  value.mapText (Token.replaceAll pairs)

end ChatEmbed
