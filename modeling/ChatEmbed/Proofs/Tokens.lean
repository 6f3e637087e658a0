import ChatEmbed.Proofs.Locality
import ChatEmbed.Proofs.Substitution

/-!
# The pieces of a text

The substitution of tokens cuts a text into pieces and writes something for each of them.  This file
says which pieces there are, and what does not matter for them: the values, pairs whose tokens do
not occur, and whether characters are compared or bytes.

* `Token.CutsBytes` is the cut of `Token.Cuts`, made in the bytes of a text.  Bytes of a token are
  found only where the token is (`Token.beginsBytes_utf8`), so it is the same cut
  (`Token.cutsBytes_utf8`) and never falls between the bytes of a character.
* `Token.replaceAll_without` leaves a pair out whose token does not occur.
* `Token.replaceAll_pieces` puts them together.
-/

set_option autoImplicit false

namespace ChatEmbed

/-! ## Bytes -/

/-- **After the bytes of a text come the bytes of a text**, if these are the bytes of a text
together. -/
theorem Text.exists_eq_append_of_utf8 {start s : Text} {bytes : List UInt8}
    (h : utf8 start ++ bytes = utf8 s) : ∃ rest, s = start ++ rest ∧ bytes = utf8 rest := by
  have hencode : start.utf8Encode ++ bytes.toByteArray = s.utf8Encode := by
    rw [List.utf8Encode, ← List.toByteArray_append]
    exact congrArg List.toByteArray h
  obtain ⟨rest, rfl⟩ := List.isPrefix_of_utf8Encode_append_eq_utf8Encode _ hencode
  rw [utf8_append] at h
  exact ⟨rest, rfl, List.append_cancel_left h⟩

theorem Text.eq_nil_of_utf8 {s : Text} (h : utf8 s = []) : s = [] := by
  obtain ⟨rest, hs, -⟩ := exists_eq_append_of_utf8 (s := []) ((List.append_nil _).trans h)
  exact (List.append_eq_nil_iff.mp hs.symm).1

namespace Token

/-- The bytes of a token that is not empty begin the bytes. -/
def BeginsBytes (token : Text) (bytes : List UInt8) : Prop :=
  token ≠ [] ∧ Text.utf8 token <+: bytes

/-- The cut of a text that is known by its bytes.  Tokens are looked for among the bytes, and the
cut goes on after the bytes of a token or of a character. -/
inductive CutsBytes (tokens : List Text) : List UInt8 → List Segment → Prop
  | nil : CutsBytes tokens [] []
  | kept {c : Char} {rest : List UInt8} {segments : List Segment}
      (free : ∀ token ∈ tokens, ¬BeginsBytes token (Text.utf8 [c] ++ rest))
      (further : CutsBytes tokens rest segments) :
      CutsBytes tokens (Text.utf8 [c] ++ rest) (.kept c :: segments)
  | token {index : Nat} {token : Text} {rest : List UInt8} {segments : List Segment}
      (there : tokens[index]? = some token) (nonempty : token ≠ [])
      (first : ∀ earlier ∈ tokens.take index, ¬BeginsBytes earlier (Text.utf8 token ++ rest))
      (further : CutsBytes tokens rest segments) :
      CutsBytes tokens (Text.utf8 token ++ rest) (.token index :: segments)

theorem beginsBytes_utf8 {token s : Text} : BeginsBytes token (Text.utf8 s) ↔ Begins token s := by
  refine and_congr_right fun _ => ⟨?_, ?_⟩
  · rintro ⟨bytes, hbytes⟩
    obtain ⟨rest, rfl, -⟩ := Text.exists_eq_append_of_utf8 hbytes
    exact List.prefix_append token rest
  · rintro ⟨rest, rfl⟩
    rw [Text.utf8_append]
    exact List.prefix_append _ _

/-- **The bytes of a text are cut where the text is.** -/
theorem cutsBytes_utf8 {tokens : List Text} {s : Text} {segments : List Segment} :
    CutsBytes tokens (Text.utf8 s) segments ↔ Cuts tokens s segments := by
  constructor
  · intro h
    generalize hbytes : Text.utf8 s = bytes at h
    induction h generalizing s with
    | nil =>
      rw [Text.eq_nil_of_utf8 hbytes]
      exact .nil
    | @kept c rest segments free further ih =>
      obtain ⟨tail, rfl, rfl⟩ := Text.exists_eq_append_of_utf8 hbytes.symm
      rw [← Text.utf8_append] at free
      exact .kept (fun token htoken => mt beginsBytes_utf8.mpr (free token htoken)) (ih rfl)
    | @token index token rest segments there nonempty first further ih =>
      obtain ⟨tail, rfl, rfl⟩ := Text.exists_eq_append_of_utf8 hbytes.symm
      rw [← Text.utf8_append] at first
      exact .token there nonempty
        (fun earlier hearlier => mt beginsBytes_utf8.mpr (first earlier hearlier)) (ih rfl)
  · intro h
    induction h with
    | nil => exact .nil
    | @kept c rest segments free further ih =>
      rw [← List.singleton_append, Text.utf8_append]
      refine .kept (fun token htoken => ?_) ih
      rw [← Text.utf8_append, beginsBytes_utf8]
      exact free token htoken
    | @token index token rest segments there nonempty first further ih =>
      rw [Text.utf8_append]
      refine .token there nonempty (fun earlier hearlier => ?_) ih
      rw [← Text.utf8_append, beginsBytes_utf8]
      exact first earlier hearlier

/-! ## Pairs without effect -/

theorem replaceAfter_congr {pairs others : List Pair} (skip : Nat) {s : Text}
    (h : ∀ t, t <:+ s → firstMatch? pairs t = firstMatch? others t) :
    replaceAfter pairs skip s = replaceAfter others skip s := by
  induction s generalizing skip with
  | nil => rw [replaceAfter, replaceAfter]
  | cons c rest ih =>
    have hrest := fun skip => ih skip fun t ht => h t (ht.trans (List.suffix_cons c rest))
    cases skip with
    | succ skip => exact hrest skip
    | zero =>
      rw [replaceAfter, replaceAfter, h _ (List.suffix_refl _)]
      simp only [hrest]

/-- **A pair whose token does not occur has no effect**, nor has one without a token. -/
theorem replaceAll_without {before after : List Pair} {pair : Pair} {s : Text}
    (h : pair.1 = [] ∨ ¬pair.1 <:+: s) :
    replaceAll (before ++ after) s = replaceAll (before ++ pair :: after) s := by
  refine replaceAfter_congr 0 fun t ht => ?_
  have hpair : (!pair.1.isEmpty && pair.1.isPrefixOf t) = false := by
    rw [← Bool.not_eq_true, begins_iff]
    rintro ⟨nonempty, hbegins⟩
    exact h.elim nonempty fun hout => hout (hbegins.isInfix.trans ht.isInfix)
  rw [firstMatch?, firstMatch?, List.find?_append, List.find?_append, List.find?_cons_of_neg]
  rw [hpair]
  exact Bool.false_ne_true

/-! ## Pieces -/

/-- Every piece takes some of the text. -/
theorem Cuts.length_le {tokens : List Text} {s : Text} {segments : List Segment}
    (h : Cuts tokens s segments) : segments.length ≤ s.length := by
  induction h with
  | nil => exact Nat.le_refl _
  | kept free further ih => exact Nat.succ_le_succ ih
  | token there nonempty first further ih =>
    have := List.length_pos_iff.mpr nonempty
    rw [List.length_cons, List.length_append]
    omega

/-- **The pieces of a text.**  A text has one cut at the tokens: from left to right, a piece is the
first token of the list that is not empty and begins the rest of the text, or else the next
character.  The substitution writes the values of the tokens, and the characters.  There are no more
pieces than characters, and together they are the text.

Cutting its bytes gives the same pieces, so no character is ever cut.  With other values, the same
pieces are written with these, so no value is looked at.  And a pair may be left out if its token
does not occur in the text. -/
theorem replaceAll_pieces (pairs : List Pair) (s : Text) :
    ∃ segments, Cuts (pairs.map Prod.fst) s segments ∧
      (∀ others, Cuts (pairs.map Prod.fst) s others → others = segments) ∧
      replaceAll pairs s = segments.flatMap (Segment.fill (pairs.map Prod.snd)) ∧
      segments.flatMap (Segment.fill (pairs.map Prod.fst)) = s ∧
      segments.length ≤ s.length ∧
      (∀ others, CutsBytes (pairs.map Prod.fst) (Text.utf8 s) others ↔ others = segments) ∧
      (∀ values, values.length = pairs.length →
        replaceAll ((pairs.map Prod.fst).zip values) s = segments.flatMap (Segment.fill values)) ∧
      ∀ before pair after, pairs = before ++ pair :: after → pair.1 = [] ∨ ¬pair.1 <:+: s →
        replaceAll (before ++ after) s = replaceAll pairs s := by
  obtain ⟨segments, hcuts, hwritten⟩ := writes_iff.mpr (Eq.refl (replaceAll pairs s))
  refine ⟨segments, hcuts, fun _ h => h.unique hcuts, hwritten, hcuts.flatMap_fill,
    hcuts.length_le, fun others => ?_, fun values hvalues => ?_, ?_⟩
  · rw [cutsBytes_utf8]
    exact ⟨fun h => h.unique hcuts, fun h => h ▸ hcuts⟩
  · have hlength : (pairs.map Prod.fst).length = values.length := by
      rw [List.length_map, hvalues]
    refine (writes_iff.mp ⟨segments, ?_, ?_⟩).symm
    · rw [List.map_fst_zip (Nat.le_of_eq hlength)]
      exact hcuts
    · rw [List.map_snd_zip (Nat.le_of_eq hlength.symm)]
  · rintro before pair after rfl h
    exact replaceAll_without h

/-- Of two tokens that begin, the first counts; a token without characters is never found; and a
value that is a token stays. -/
example : replaceAll [("né", "é"), ("", "!"), ("née", "?"), ("é", "n")] "née né é" = "ée é n" := by
  decide

end Token

end ChatEmbed
