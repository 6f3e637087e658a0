import ChatEmbed.Proofs.Outcome
import ChatEmbed.Proofs.Tokens
import Mathlib.Data.List.Find
import Mathlib.Data.List.Pairwise

/-!
# When the order of declarations does not matter

Of several tokens that begin at the same place of a text, the one that is declared first counts.
For this to happen, one of two tokens has to begin the other.

* `Token.Apart` says of tokens that this cannot happen.  They may still overlap, or hold one another
  further on.
* `Token.firstMatch?_perm` is the fact about one place, and `Json.substitute_perm` the one about
  whole values.
* `Token.replaceAll_swap_ne` says that the order does matter for any two tokens that are not apart.
-/

set_option autoImplicit false

namespace ChatEmbed
namespace Token

/-- No token is empty, and none begins another one. -/
structure Apart (tokens : List Text) : Prop where
  nonempty : ∀ token ∈ tokens, token ≠ []
  apart : tokens.Pairwise fun first second ↦ ¬first <+: second ∧ ¬second <+: first

theorem Apart.sublist {tokens some : List Text} (h : Apart tokens) (hsome : some.Sublist tokens) :
    Apart some :=
  ⟨fun token htoken ↦ h.nonempty token (hsome.subset htoken), h.apart.sublist hsome⟩

/-- **At most one of the pairs begins at a place**, if the tokens are apart. -/
theorem Apart.eq_of_begins {pairs : List Pair} (h : Apart (pairs.map Prod.fst)) {first second : Pair}
    (hfirst : first ∈ pairs) (hsecond : second ∈ pairs) {s : Text} (hbegins : first.1 <+: s)
    (hbegins' : second.1 <+: s) : first = second := by
  by_contra hne
  have : Std.Symm fun first second : Pair ↦ ¬first.1 <+: second.1 ∧ ¬second.1 <+: first.1 :=
    ⟨fun _ _ ↦ And.symm⟩
  obtain ⟨hleft, hright⟩ := (List.pairwise_map.mp h.apart).forall hfirst hsecond hne
  exact (List.prefix_or_prefix_of_prefix hbegins hbegins').elim hleft hright

/-- Which pair counts at a place does not depend on the order of the pairs. -/
theorem firstMatch?_perm {pairs others : List Pair} (h : Apart (pairs.map Prod.fst))
    (hperm : others.Perm pairs) (s : Text) : firstMatch? others s = firstMatch? pairs s := by
  refine (List.find?_eq_find?_of_perm hperm.symm ?_).symm
  rintro first ⟨hfirst, hmatch⟩ second ⟨hsecond, hmatch'⟩
  exact h.eq_of_begins hfirst hsecond (begins_iff.mp hmatch).2 (begins_iff.mp hmatch').2

theorem replaceAll_perm {pairs others : List Pair} (h : Apart (pairs.map Prod.fst))
    (hperm : others.Perm pairs) (s : Text) : replaceAll others s = replaceAll pairs s :=
  replaceAfter_congr 0 fun t _ ↦ firstMatch?_perm h hperm t

/-- **The order matters for two tokens of which one begins the other**, with some values and in some
text. -/
theorem replaceAll_swap_ne {first second : Text} (nonempty : first ≠ []) (h : first <+: second) :
    ∃ value other, replaceAll [(first, value), (second, other)] second ≠
      replaceAll [(second, other), (first, value)] second := by
  obtain ⟨rest, rfl⟩ := h
  have hlong : first ++ rest ≠ [] := fun hnil ↦ nonempty (List.append_eq_nil_iff.mp hnil).1
  refine ⟨['x'], [], ?_⟩
  have hshort : replaceAll [(first, ['x']), (first ++ rest, [])] (first ++ rest) =
      ['x'] ++ replaceAll [(first, ['x']), (first ++ rest, [])] rest :=
    replaceAll_append_of_some
      (List.find?_cons_of_pos (begins_iff.mpr ⟨nonempty, List.prefix_append first rest⟩))
  have hwhole : replaceAll [(first ++ rest, []), (first, ['x'])] (first ++ rest ++ []) =
      [] ++ replaceAll [(first ++ rest, []), (first, ['x'])] [] :=
    replaceAll_append_of_some
      (List.find?_cons_of_pos (begins_iff.mpr ⟨hlong, List.prefix_append _ []⟩))
  rw [List.append_nil, replaceAll_nil] at hwhole
  rw [hshort, hwhole]
  exact List.cons_ne_nil _ _

/-- **Tokens are apart exactly if their order never matters.** -/
theorem apart_pair_iff {first second : Text} (hfirst : first ≠ []) (hsecond : second ≠ []) :
    Apart [first, second] ↔ ∀ value other s, replaceAll [(first, value), (second, other)] s =
      replaceAll [(second, other), (first, value)] s := by
  constructor
  · intro h value other s
    have hpairs : Apart ([(first, value), (second, other)].map Prod.fst) := h
    exact (replaceAll_perm hpairs (.swap _ _ _) s).symm
  · intro h
    have hleft : ¬first <+: second := fun hbegins ↦ by
      obtain ⟨value, other, hne⟩ := replaceAll_swap_ne hfirst hbegins
      exact hne (h value other second)
    have hright : ¬second <+: first := fun hbegins ↦ by
      obtain ⟨value, other, hne⟩ := replaceAll_swap_ne hsecond hbegins
      exact hne (h other value first).symm
    exact ⟨by simp [hfirst, hsecond], List.pairwise_pair.mpr ⟨hleft, hright⟩⟩

end Token

theorem Json.substitute_perm {pairs others : List Token.Pair}
    (h : Token.Apart (pairs.map Prod.fst)) (hperm : others.Perm pairs) (value : Json) :
    value.substitute others = value.substitute pairs := by
  rw [substitute, substitute, funext (Token.replaceAll_perm h hperm)]

namespace Blueprint

/-- Only declared tokens have values. -/
theorem map_fst_pairs_sublist (blueprint : Blueprint) (overrides : Overrides) :
    ((blueprint.pairs overrides).map Prod.fst).Sublist
      (blueprint.replacements.map Replacement.token) := by
  rw [pairs]
  induction blueprint.replacements with
  | nil => exact List.Sublist.refl []
  | cons r rest ih =>
    rw [List.filterMap_cons, List.map_cons]
    cases r.value? overrides with
    | none => exact ih.cons _
    | some value => exact ih.cons_cons _

/-- **Placeholders in another order** are filled in all the same, if their tokens are apart and all
have values. -/
theorem render_perm {blueprint : Blueprint} {reordered : List Replacement} {overrides : Overrides}
    (h : Token.Apart (blueprint.replacements.map Replacement.token))
    (hperm : reordered.Perm blueprint.replacements)
    (valued : ∀ r ∈ blueprint.replacements, r.value? overrides ≠ none) :
    { blueprint with replacements := reordered }.render overrides = blueprint.render overrides := by
  let other : Blueprint := { blueprint with replacements := reordered }
  have hpairs : (other.pairs overrides).Perm (blueprint.pairs overrides) := hperm.filterMap _
  have hresolve : other.resolve overrides = .ok (other.pairs overrides) :=
    resolve_eq_ok fun r hr ↦ valued r (hperm.subset hr)
  have hsubstitute := Json.substitute_perm
    (h.sublist (blueprint.map_fst_pairs_sublist overrides)) hpairs
  rw [render, render, hresolve, resolve_eq_ok valued]
  simp only [bind, Except.bind, hsubstitute]

/-- **The order of declarations matters for ties only.**  Let no token be empty and none begin
another one.  Then the values can be given in any order to a JSON value, and the placeholders of a
blueprint can be declared in any order, as long as all of them have a value: rendering ends in the
same way, be it with a value or with an error.  Two tokens of which one begins the other can be told
apart by their order. -/
theorem render_reordered :
    (∀ (pairs others : List Token.Pair) (value : Json), Token.Apart (pairs.map Prod.fst) →
      others.Perm pairs → value.substitute others = value.substitute pairs) ∧
    (∀ (blueprint : Blueprint) (reordered : List Replacement) (overrides : Overrides),
      Token.Apart (blueprint.replacements.map Replacement.token) →
      reordered.Perm blueprint.replacements →
      (∀ r ∈ blueprint.replacements, r.value? overrides ≠ none) →
      { blueprint with replacements := reordered }.render overrides =
        blueprint.render overrides) ∧
    ∀ first second : Text, first ≠ [] → second ≠ [] →
      (Token.Apart [first, second] ↔ ∀ value other s,
        Token.replaceAll [(first, value), (second, other)] s =
          Token.replaceAll [(second, other), (first, value)] s) :=
  ⟨fun _ _ value h hperm ↦ Json.substitute_perm h hperm value,
    fun _ _ _ h hperm valued ↦ render_perm h hperm valued,
    fun _ _ hfirst hsecond ↦ Token.apart_pair_iff hfirst hsecond⟩

/-- Tokens that overlap, and one that holds another one further on. -/
def interlocked : Blueprint where
  embed := { title := "abcabx".toList, text := " bcab".toList }
  replacements := [⟨"ab".toList, none⟩, ⟨"bc".toList, some "-".toList⟩, ⟨"cabx".toList, some []⟩]

/-- Overlapping tokens may be declared in any order, and listed in any order with their values. -/
theorem render_reordered_interlocked :
    Token.Apart (interlocked.replacements.map Replacement.token) ∧
    interlocked.render [("ab".toList, "!".toList)]
      = .ok (.object [("title", .text "!".toList), ("description", .text "-!".toList)]) ∧
    { interlocked with replacements := interlocked.replacements.reverse }.render
        [("ab".toList, "!".toList)]
      = .ok (.object [("title", .text "!".toList), ("description", .text "-!".toList)]) ∧
    (Json.list [.text "abc".toList, .text "bcab".toList]).substitute
        [("bc".toList, "ab".toList), ("ab".toList, "bc".toList)]
      = .list [.text "bcc".toList, .text "abbc".toList] ∧
    (Token.Apart ["ab".toList, "bc".toList] ↔ ∀ value other s,
      Token.replaceAll [("ab".toList, value), ("bc".toList, other)] s =
        Token.replaceAll [("bc".toList, other), ("ab".toList, value)] s) := by
  obtain ⟨hvalue, hrender, hpair⟩ := render_reordered
  have happart : Token.Apart (interlocked.replacements.map Replacement.token) :=
    ⟨by decide, by decide⟩
  refine ⟨happart, rfl, ?_, ?_, hpair _ _ (by decide) (by decide)⟩
  · exact hrender interlocked _ [("ab".toList, "!".toList)] happart (List.reverse_perm _)
      (by decide)
  · exact (hvalue [("ab".toList, "bc".toList), ("bc".toList, "ab".toList)] _ _
      ⟨by decide, by decide⟩ (.swap _ _ _)).trans rfl

end Blueprint

end ChatEmbed
