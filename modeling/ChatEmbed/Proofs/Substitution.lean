import ChatEmbed.Proofs.Json
import ChatEmbed.Substitution
import Mathlib.Data.List.Forall2

/-!
# Values in the place of tokens

What the substitution of tokens does to a text and to a whole value, said without the functions that
do it.

* `Token.Cuts` cuts a text into characters that stay and tokens, by one pass from left to right.
  It knows the tokens but not their values, and it leaves no choice (`Cuts.unique`).
* `Token.Writes` is the cut text with a value in the place of each token.  This is what
  `Token.replaceAll` computes (`Token.writes_iff`), so no value has a say in where tokens are found,
  and none is ever read again.
* `Substituted` goes through a value and its result side by side: texts are written anew, items stay
  in their places, and of the entries of an object those remain that still say something.  This is
  what `Json.mapText` and `Json.prune` make together (`substituted_iff`).
* `Substituted.exists_of_has` and `Substituted.has_scalar` say what is found at a place before and
  after.
-/

set_option autoImplicit false

namespace ChatEmbed

/-! ## Texts -/

namespace Token

/-- A part of a text that has been cut: a character, or the token of this index in a list. -/
inductive Segment
  | kept (c : Char)
  | token (index : Nat)
deriving DecidableEq, Repr

/-- The text of a segment, if these texts stand for the tokens. -/
def Segment.fill (texts : List Text) : Segment → Text
  | .kept c => [c]
  | .token index => texts[index]?.getD []

/-- A token that is not empty begins the text. -/
def Begins (token s : Text) : Prop :=
  token ≠ [] ∧ token <+: s

/-- The cut of a text at the tokens in it.  Where several tokens begin, the first of the list
counts, and the cut goes on after it. -/
inductive Cuts (tokens : List Text) : Text → List Segment → Prop
  | nil : Cuts tokens [] []
  | kept {c : Char} {rest : Text} {segments : List Segment}
      (free : ∀ token ∈ tokens, ¬Begins token (c :: rest)) (further : Cuts tokens rest segments) :
      Cuts tokens (c :: rest) (.kept c :: segments)
  | token {index : Nat} {token rest : Text} {segments : List Segment}
      (there : tokens[index]? = some token) (nonempty : token ≠ [])
      (first : ∀ earlier ∈ tokens.take index, ¬Begins earlier (token ++ rest))
      (further : Cuts tokens rest segments) :
      Cuts tokens (token ++ rest) (.token index :: segments)

/-- The text with a value in the place of each token. -/
def Writes (pairs : List Pair) (s t : Text) : Prop :=
  ∃ segments, Cuts (pairs.map Prod.fst) s segments ∧
    t = segments.flatMap (Segment.fill (pairs.map Prod.snd))

variable {tokens : List Text} {s : Text}

theorem begins_append {token : Text} (h : token ≠ []) (rest : Text) :
    Begins token (token ++ rest) :=
  ⟨h, List.prefix_append token rest⟩

/-- With the tokens themselves in their places, the text is whole again. -/
theorem Cuts.flatMap_fill {segments : List Segment} (h : Cuts tokens s segments) :
    segments.flatMap (Segment.fill tokens) = s := by
  induction h with
  | nil => rfl
  | kept free further ih => rw [List.flatMap_cons, ih]; rfl
  | token there nonempty first further ih =>
    rw [List.flatMap_cons, ih, Segment.fill, there, Option.getD_some]

/-- Of two tokens that begin a text, none can be the first of the list but one. -/
theorem le_of_first {index other : Nat} {token : Text} (there : tokens[index]? = some token)
    (begins : Begins token s) (first : ∀ earlier ∈ tokens.take other, ¬Begins earlier s) :
    other ≤ index := by
  by_contra hlt
  refine first token (List.mem_of_getElem? (i := index) ?_) begins
  rw [List.getElem?_take_of_lt (Nat.lt_of_not_le hlt), there]

/-- **The tokens decide where a text is cut.** -/
theorem Cuts.unique {first second : List Segment} (hfirst : Cuts tokens s first)
    (hsecond : Cuts tokens s second) : first = second := by
  induction hfirst generalizing second with
  | nil =>
    generalize hs : ([] : Text) = s at hsecond
    cases hsecond with
    | nil => rfl
    | kept => cases hs
    | token _ nonempty => exact absurd (List.append_eq_nil_iff.mp hs.symm).1 nonempty
  | @kept c rest segments free further ih =>
    generalize hs : c :: rest = s at hsecond free
    cases hsecond with
    | nil => cases hs
    | kept _ further' =>
      cases hs
      rw [ih further']
    | token there nonempty =>
      exact absurd (begins_append nonempty _) (free _ (List.mem_of_getElem? there))
  | @token index token rest segments there nonempty hfirst further ih =>
    have hbegins := begins_append nonempty rest
    generalize hs : token ++ rest = s at hsecond hfirst hbegins
    cases hsecond with
    | nil => exact absurd (List.append_eq_nil_iff.mp hs).1 nonempty
    | kept free => exact absurd hbegins (free _ (List.mem_of_getElem? there))
    | @token other token' _ _ there' nonempty' hfirst' further' =>
      -- both tokens begin the text, so neither can come before the other in the list
      have hindex : index = other :=
        Nat.le_antisymm (le_of_first there' (begins_append nonempty' _) hfirst)
          (le_of_first there hbegins hfirst')
      subst hindex
      obtain rfl : token = token' := Option.some.inj (there.symm.trans there')
      rw [List.append_cancel_left hs] at ih
      rw [ih further']

theorem begins_iff {token : Text} :
    (!token.isEmpty && token.isPrefixOf s) = true ↔ Begins token s := by
  simp [Begins]

theorem firstMatch?_eq_none_iff {pairs : List Pair} :
    firstMatch? pairs s = none ↔ ∀ token ∈ pairs.map Prod.fst, ¬Begins token s := by
  simp [firstMatch?, Begins, List.find?_eq_none]

theorem exists_of_firstMatch?_eq_some {pairs : List Pair} {pair : Pair}
    (h : firstMatch? pairs s = some pair) :
    ∃ index, pairs[index]? = some pair ∧ Begins pair.1 s ∧
      ∀ earlier ∈ (pairs.map Prod.fst).take index, ¬Begins earlier s := by
  obtain ⟨hmatch, before, after, rfl, hbefore⟩ := List.find?_eq_some_iff_append.mp h
  refine ⟨before.length, by simp, begins_iff.mp hmatch, fun earlier hearlier ↦ ?_⟩
  rw [List.map_append, ← List.length_map (f := Prod.fst), List.take_left, List.mem_map] at hearlier
  obtain ⟨other, hother, rfl⟩ := hearlier
  rw [← begins_iff]
  simpa only [Bool.not_eq_true, Bool.not_eq_true'] using hbefore other hother

/-- What is written after some characters that belong to a token already replaced.  The induction
is the one over the text by which `replaceAfter` is defined. -/
theorem writes_replaceAfter (pairs : List Pair) (skip : Nat) (s : Text) :
    Writes pairs (s.drop skip) (replaceAfter pairs skip s) := by
  induction s generalizing skip with
  | nil => exact ⟨[], by rw [List.drop_nil]; exact .nil, by rw [replaceAfter]; rfl⟩
  | cons c rest ih =>
    cases skip with
    | succ skip => exact ih skip
    | zero =>
      rw [List.drop_zero, replaceAfter]
      cases hmatch : firstMatch? pairs (c :: rest) with
      | none =>
        obtain ⟨segments, hcuts, htext⟩ := ih 0
        refine ⟨_, .kept (firstMatch?_eq_none_iff.mp hmatch) hcuts, ?_⟩
        dsimp only
        rw [htext, List.flatMap_cons]
        rfl
      | some pair =>
        obtain ⟨token, value⟩ := pair
        obtain ⟨index, there, ⟨nonempty, tail, hs⟩, hfirst⟩ := exists_of_firstMatch?_eq_some hmatch
        cases token with
        | nil => exact absurd rfl nonempty
        | cons d token =>
          rw [List.cons_append] at hs
          obtain ⟨rfl, rfl⟩ := List.cons.inj hs
          obtain ⟨segments, hcuts, htext⟩ := ih token.length
          rw [List.drop_left] at hcuts
          refine ⟨_, .token (by simp [there]) nonempty hfirst hcuts, ?_⟩
          dsimp only
          rw [List.length_cons, Nat.add_sub_cancel, htext, List.flatMap_cons, Segment.fill,
            List.getElem?_map, there]
          rfl

/-- **The text that the substitution of tokens writes.** -/
theorem writes_iff {pairs : List Pair} {t : Text} : Writes pairs s t ↔ t = replaceAll pairs s := by
  constructor
  · rintro ⟨segments, hcuts, rfl⟩
    obtain ⟨others, hothers, htext⟩ := writes_replaceAfter pairs 0 s
    rw [replaceAll, htext, hcuts.unique hothers]
  · rintro rfl
    exact writes_replaceAfter pairs 0 s

end Token

/-! ## Values -/

/-- A value and what has become of it: texts are written anew by `R`, items stay in their places,
and of the entries of an object, in order, those are left that say something in the end. -/
inductive Substituted (R : Text → Text → Prop) : Json → Json → Prop
  | null : Substituted R .null .null
  | bool (value : Bool) : Substituted R (.bool value) (.bool value)
  | number (value : Int) : Substituted R (.number value) (.number value)
  | real (value : Double) : Substituted R (.real value) (.real value)
  | text {s t : Text} (written : R s t) : Substituted R (.text s) (.text t)
  | list {items results : List Json} (each : List.Forall₂ (Substituted R) items results) :
      Substituted R (.list items) (.list results)
  | object {entries results : Json.Entries}
      (keys : results.map Prod.fst = entries.map Prod.fst)
      (each : List.Forall₂ (Substituted R) (entries.map Prod.snd) (results.map Prod.snd)) :
      Substituted R (.object entries) (.object (results.filter fun result ↦ !result.2.isEmpty))

/-- Neither a text nor made of other values. -/
def Json.IsScalar : Json → Prop
  | .text _ | .list _ | .object _ => False
  | _ => True

/-- A relation that is a function for the elements of a list is so for the list. -/
theorem forall₂_iff_eq_map {α β : Type} {R : α → β → Prop} {f : α → β} {l : List α}
    (h : ∀ a ∈ l, ∀ b, R a b ↔ b = f a) {results : List β} :
    List.Forall₂ R l results ↔ results = l.map f := by
  induction l generalizing results with
  | nil => rw [List.forall₂_nil_left_iff, List.map_nil]
  | cons a rest ih =>
    rw [List.forall_mem_cons] at h
    simp only [List.forall₂_cons_left_iff, h.1, ih h.2, List.map_cons]
    constructor
    · rintro ⟨_, _, rfl, rfl, rfl⟩
      rfl
    · rintro rfl
      exact ⟨_, _, rfl, rfl, rfl⟩

theorem exists_getElem?_of_forall₂ {α β : Type} {R : α → β → Prop} {l : List α} {results : List β}
    (h : List.Forall₂ R l results) {i : Nat} {b : β} (hb : results[i]? = some b) :
    ∃ a, l[i]? = some a ∧ R a b := by
  induction h generalizing i with
  | nil => cases hb
  | @cons a b' rest others hab hrest ih =>
    cases i with
    | zero =>
      obtain rfl : b' = b := Option.some.inj hb
      exact ⟨a, rfl, hab⟩
    | succ i => exact ih hb

theorem exists_entry_of_forall₂ {κ α β : Type} {R : α → β → Prop} {entries : List (κ × α)}
    {results : List (κ × β)} (keys : results.map Prod.fst = entries.map Prod.fst)
    (each : List.Forall₂ R (entries.map Prod.snd) (results.map Prod.snd)) {key : κ} {b : β}
    (h : (key, b) ∈ results) : ∃ a, (key, a) ∈ entries ∧ R a b := by
  obtain ⟨i, hi⟩ := List.getElem?_of_mem h
  obtain ⟨a, ha, hab⟩ := exists_getElem?_of_forall₂ each (i := i) (b := b) (by simp [hi])
  have hkey : (entries.map Prod.fst)[i]? = some key := by simp [← keys, hi]
  rw [List.getElem?_map, Option.map_eq_some_iff] at ha hkey
  obtain ⟨entry, hentry, rfl⟩ := ha
  obtain ⟨other, hother, rfl⟩ := hkey
  rw [hentry] at hother
  cases hother
  exact ⟨_, List.mem_of_getElem? hentry, hab⟩

section

variable {R : Text → Text → Prop} {base value : Json}

/-- **What has become of a value**, if texts are written anew by a function. -/
theorem substituted_iff {f : Text → Text} (hR : ∀ s t, R s t ↔ t = f s) :
    Substituted R base value ↔ value = (base.mapText f).prune := by
  induction base using Json.tree_induction generalizing value with
  | text s =>
    constructor
    · intro h
      cases h with
      | text written =>
        rw [(hR _ _).mp written]
        rfl
    · rintro rfl
      exact .text ((hR _ _).mpr rfl)
  | list items ih =>
    rw [Json.mapText_list, Json.prune_list, List.map_map]
    have heach := @forall₂_iff_eq_map _ _ (Substituted R) (fun item ↦ (item.mapText f).prune) items
      fun item hitem _ ↦ ih item hitem
    constructor
    · intro h
      cases h with
      | list each =>
        rw [heach.mp each]
        rfl
    · rintro rfl
      exact .list (heach.mpr rfl)
  | object entries ih =>
    rw [Json.mapText_object, Json.prune_object, List.map_map]
    have heach := @forall₂_iff_eq_map _ _ (Substituted R) (fun item ↦ (item.mapText f).prune)
      (entries.map Prod.snd) (List.forall_mem_map.mpr fun entry hentry _ ↦ ih entry hentry)
    constructor
    · intro h
      cases h with
      | @object _ results keys each =>
        have hresults : results = entries.map fun entry ↦ (entry.1, (entry.2.mapText f).prune) := by
          rw [List.zip_of_prod keys (heach.mp each)]
          exact (List.zip_of_prod (by simp) (by simp)).symm
        rw [hresults]
        rfl
    · rintro rfl
      exact .object (by simp) (heach.mpr (by simp))
  | _ => exact ⟨fun h ↦ by cases h; rfl, fun h ↦ h ▸ by constructor⟩

/-- **Nothing is found after the substitution that was not there before**: what is at a place is
what has become of what was there. -/
theorem Substituted.exists_of_has (h : Substituted R base value) {place : List Json.Step}
    {part : Json} (hpart : value.Has place part) :
    ∃ original, base.Has place original ∧ Substituted R original part := by
  induction hpart generalizing base with
  | here value => exact ⟨base, .here base, h⟩
  | item there below ih =>
    cases h with
    | list each =>
      obtain ⟨item, hitem, hresult⟩ := exists_getElem?_of_forall₂ each there
      obtain ⟨original, horiginal, hpart⟩ := ih hresult
      exact ⟨original, .item hitem horiginal, hpart⟩
  | entry there below ih =>
    cases h with
    | object keys each =>
      obtain ⟨entry, hentry, hresult⟩ :=
        exists_entry_of_forall₂ keys each (List.mem_filter.mp there).1
      obtain ⟨original, horiginal, hpart⟩ := ih hresult
      exact ⟨original, .entry hentry horiginal, hpart⟩

theorem Substituted.eq_of_isScalar (h : Substituted R base value) (hscalar : value.IsScalar) :
    base = value := by
  cases h with
  | text | list | object => cases hscalar
  | _ => rfl

/-- **A scalar that says something stays where it is.** -/
theorem Substituted.has_scalar (h : Substituted R base value) (htidy : base.Tidy)
    {place : List Json.Step} {part : Json} (hscalar : part.IsScalar) (hpart : base.Has place part) :
    value.Has place part := by
  induction hpart generalizing value with
  | here base =>
    cases h with
    | text | list | object => cases hscalar
    | _ => exact .here _
  | item there below ih =>
    cases h with
    | list each =>
      obtain ⟨result, hresult, hitem⟩ := exists_getElem?_of_forall₂ each.flip there
      exact .item hresult (ih hitem (htidy.item there) hscalar)
  | @entry entries key inner part place there below ih =>
    cases h with
    | object keys each =>
      obtain ⟨result, hresult, hentry⟩ := exists_entry_of_forall₂ keys.symm each.flip there
      have hpart := ih hentry (htidy.entry there) hscalar
      -- the entry is kept: it has the scalar below it, or it is the scalar, which says something
      have hfilled : result.isEmpty = false := by
        cases place with
        | cons => exact hpart.isEmpty_eq_false
        | nil =>
          cases hpart
          cases below
          exact htidy.isEmpty_eq_false there
      exact .entry (List.mem_filter.mpr ⟨hresult, by rw [hfilled]; rfl⟩) hpart

end

end ChatEmbed
