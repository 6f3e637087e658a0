import ChatEmbed.Proofs.Payload
import ChatEmbed.Proofs.Substitution

/-!
# What a caller can do to the JSON form of a blueprint

A caller supplies values for the placeholders of a blueprint, and they may be any texts.  This file
says how much they can change.

* `Rendered` compares what rendering makes with the JSON form of the embed alone: the values stand
  where tokens stood in texts, and entries can disappear, and that is all.
* `Blueprint.render_rendered` is the theorem that rendering does this, and looks at nothing else
  than the values of the tokens that the blueprint declares.
-/

set_option autoImplicit false

namespace ChatEmbed

/-! ## Rendering, step by step -/

namespace Json

/-- What is read under a key once texts are changed and empty entries are gone, is read of what was
there before. -/
theorem readAt_prune_mapText {α : Type} {read : Json → α} {entries : Entries}
    (h : (entries.map Prod.fst).Nodup)
    (hread : ∀ value : Json, value.isEmpty = true → read value = read .null) (f : Text → Text)
    (key : Text) :
    ((Json.object entries).mapText f).prune.readAt read key =
      (Json.object entries).readAt (fun value ↦ read (value.mapText f).prune) key := by
  have hkeys : ((entries.map fun entry ↦ (entry.1, (entry.2.mapText f).prune)).map Prod.fst).Nodup
      := by rwa [List.map_map]
  rw [mapText_object, prune_object, List.map_map]
  refine (readAt_filter hkeys hread key).trans ?_
  rw [readAt, readAt, get?_map fun value ↦ (value.mapText f).prune]
  cases (Json.object entries).get? key <;> rfl

/-- The text under a key is changed like any other, as long as no text comes from nothing. -/
theorem textAt_prune_mapText {entries : Entries} (h : (entries.map Prod.fst).Nodup)
    {f : Text → Text} (hf : f [] = []) (key : Text) :
    ((Json.object entries).mapText f).prune.textAt key = f ((Json.object entries).textAt key) := by
  have htext (value : Json) : asText (value.mapText f).prune = f (asText value) := by
    cases value with
    | text s => rfl
    | list items => simp [mapText_list, prune_list, asText, hf]
    | object entries => simp [mapText_object, prune_object, asText, hf]
    | _ => exact hf.symm
  rw [← readAt_asText, ← readAt_asText, readAt_prune_mapText h fun _ ↦ asText_of_isEmpty]
  exact htext _

/-- Pruning and changing texts happen to the items under a key one by one. -/
theorem itemsAt_prune_mapText {entries : Entries} (h : (entries.map Prod.fst).Nodup)
    (f : Text → Text) (key : Text) :
    ((Json.object entries).mapText f).prune.itemsAt key =
      ((Json.object entries).itemsAt key).map fun item ↦ (item.mapText f).prune := by
  have hitems (value : Json) : asItems (value.mapText f).prune =
      (asItems value).map fun item ↦ (item.mapText f).prune := by
    cases value with
    | list items => simp [mapText_list, prune_list, asItems]
    | object entries => simp [mapText_object, prune_object, asItems]
    | _ => rfl
  rw [← readAt_asItems, ← readAt_asItems, readAt_prune_mapText h fun _ ↦ asItems_of_isEmpty]
  exact hitems _

end Json

namespace Blueprint

variable {blueprint : Blueprint} {overrides : Overrides}

/-- What rendering goes through when it gives a value. -/
theorem render_eq_ok_iff {value : Json} :
    blueprint.render overrides = .ok value ↔
      ∃ pairs base, blueprint.resolve overrides = .ok pairs ∧ blueprint.embed.payload = .ok base ∧
        (base.substitute pairs).prune = value ∧ requireRendered value = .ok () := by
  rw [render]
  simp only [bind_eq_ok_iff]
  constructor
  · rintro ⟨pairs, hpairs, base, hbase, _, hrequire, ⟨⟩⟩
    exact ⟨pairs, base, hpairs, hbase, rfl, hrequire⟩
  · rintro ⟨pairs, base, hpairs, hbase, rfl, hrequire⟩
    exact ⟨pairs, hpairs, base, hbase, (), hrequire, rfl⟩

/-- The values of the declared tokens are all that rendering asks a caller for. -/
theorem resolve_congr {first second : Overrides}
    (h : ∀ r ∈ blueprint.replacements, first.get? r.token = second.get? r.token) :
    blueprint.resolve first = blueprint.resolve second := by
  rw [resolve, resolve]
  generalize blueprint.replacements = replacements at h
  induction replacements with
  | nil => rfl
  | cons r rest ih =>
    obtain ⟨hfirst, hrest⟩ := List.forall_mem_cons.mp h
    rw [List.mapM_cons, List.mapM_cons, ih hrest, Replacement.resolve, hfirst,
      ← Replacement.resolve]

end Blueprint

/-! ## Before and after -/

/-- How the JSON form of a blueprint that has been rendered compares with that of its embed alone,
`base`, if these are the tokens with their values. -/
structure Rendered (pairs : List Token.Pair) (base value : Json) : Prop where
  /-- Texts have the values in the place of tokens, and what has become empty by that is gone. -/
  substituted : Substituted (Token.Writes pairs) base value
  /-- Nothing else can be said to be that. -/
  only : ∀ other, Substituted (Token.Writes pairs) base other → other = value
  /-- The keys of an object were there before, in the same order. -/
  keys : ∀ place entries, value.Has place (.object entries) →
    ∃ originals, base.Has place (.object originals) ∧
      (entries.map Prod.fst).Sublist (originals.map Prod.fst)
  /-- The items of a list were there before, all of them and in the same order. -/
  items : ∀ place items, value.Has place (.list items) →
    ∃ originals, base.Has place (.list originals) ∧
      List.Forall₂ (Substituted (Token.Writes pairs)) originals items
  /-- So are the fields, whether there are any or not. -/
  fields : List.Forall₂ (Substituted (Token.Writes pairs)) (base.itemsAt "fields")
    (value.itemsAt "fields")
  /-- A text was a text before, and only its tokens are different. -/
  texts : ∀ place t, value.Has place (.text t) →
    ∃ s, base.Has place (.text s) ∧ Token.Writes pairs s t
  /-- Numbers and truth values are where they were. -/
  scalars : ∀ place part, part.IsScalar → (value.Has place part ↔ base.Has place part)

theorem rendered_of_payload {embed : Embed} {base : Json} (h : embed.payload = .ok base)
    (pairs : List Token.Pair) : Rendered pairs base (base.substitute pairs).prune := by
  have hwrites (s t : Text) : Token.Writes pairs s t ↔ t = Token.replaceAll pairs s :=
    Token.writes_iff
  have hsubstituted : Substituted (Token.Writes pairs) base (base.substitute pairs).prune :=
    (substituted_iff hwrites).mpr rfl
  refine ⟨hsubstituted, fun other hother ↦ (substituted_iff hwrites).mp hother, ?keys, ?items,
    ?fields, ?texts, ?scalars⟩
  case keys =>
    intro place entries hentries
    obtain ⟨original, horiginal, hpart⟩ := hsubstituted.exists_of_has hentries
    cases hpart with
    | @object originals results keys each =>
      exact ⟨originals, horiginal, keys ▸ List.filter_sublist.map Prod.fst⟩
  case items =>
    intro place items hitems
    obtain ⟨original, horiginal, hpart⟩ := hsubstituted.exists_of_has hitems
    cases hpart with
    | list each => exact ⟨_, horiginal, each⟩
  case fields =>
    obtain ⟨-, -, items, -, rfl⟩ := Embed.payload_eq_ok_iff.mp h
    have hkeys := embed.nodup_keys items
    rw [Json.filled_eq hkeys, Json.substitute,
      Json.itemsAt_prune_mapText ((List.filter_sublist.map _).nodup hkeys),
      List.forall₂_map_right_iff, List.forall₂_same]
    exact fun item _ ↦ (substituted_iff hwrites).mpr rfl
  case texts =>
    intro place t ht
    obtain ⟨original, horiginal, hpart⟩ := hsubstituted.exists_of_has ht
    cases hpart with
    | text written => exact ⟨_, horiginal, written⟩
  case scalars =>
    intro place part hscalar
    constructor
    · intro hpart
      obtain ⟨original, horiginal, hsame⟩ := hsubstituted.exists_of_has hpart
      rwa [hsame.eq_of_isScalar hscalar] at horiginal
    · exact hsubstituted.has_scalar (Embed.tidy_payload h) hscalar

/-- **A caller cannot change more than texts.**  What rendering makes is the JSON form of the embed
with values in the place of tokens and without the entries that have become empty; and callers who
give the same values to the declared tokens get the same, whatever else they give. -/
theorem Blueprint.render_rendered (blueprint : Blueprint) :
    (∀ overrides value, blueprint.render overrides = .ok value →
      ∃ pairs base, blueprint.resolve overrides = .ok pairs ∧ blueprint.embed.payload = .ok base ∧
        Rendered pairs base value) ∧
    ∀ first second : Overrides,
      (∀ r ∈ blueprint.replacements, first.get? r.token = second.get? r.token) →
      blueprint.render first = blueprint.render second := by
  constructor
  · intro overrides value h
    obtain ⟨pairs, base, hpairs, hbase, rfl, -⟩ := render_eq_ok_iff.mp h
    exact ⟨pairs, base, hpairs, hbase, rendered_of_payload hbase pairs⟩
  · intro first second h
    rw [render, render, resolve_congr h]

/-- A greeting from somebody who need not be named. -/
def greeting : Blueprint where
  embed := {
    title := "Dear name", text := " Hello".toList,
    attributes := { color := 0x010101, footerText := "who".toList, authorName := "who".toList,
                    authorUrl := "u".toList },
    fields := [{ title := "To".toList, text := "name&".toList },
      { title := "From".toList, text := " us".toList }] }
  replacements := [⟨"name".toList, none⟩, ⟨"who".toList, some []⟩]

/-- A text that looks like markup and holds a token. -/
def disguise : Text := "# who\n@url: \"&".toList

/-- A value that looks like markup stands as it is, an empty one takes its entries along, and a
value for a token that is not declared is not noticed. -/
theorem Blueprint.render_rendered_disguise :
    ∃ base value,
      value = .object [("title", .text ("Dear ".toList ++ disguise)),
        ("description", .text "Hello".toList), ("color", .ofNat 0x010101),
        ("fields", .list [
          .object [("name", .text "To".toList), ("value", .text disguise), ("inline", .bool true)],
          .object [("name", .text "From".toList), ("value", .text "us".toList)]]),
        ("author", .object [("url", .text "u".toList)])] ∧
      greeting.embed.payload = .ok base ∧
      greeting.render [("name".toList, disguise)] = .ok value ∧
      greeting.render [("Hello".toList, "Bye".toList), ("name".toList, disguise)] = .ok value ∧
      Rendered [("name".toList, disguise), ("who".toList, [])] base value := by
  obtain ⟨hrendered, hagree⟩ := render_rendered greeting
  obtain ⟨pairs, base, hpairs, hbase, hrelated⟩ := hrendered [("name".toList, disguise)] _ rfl
  cases hpairs
  refine ⟨base, _, rfl, hbase, rfl, ?_, hrelated⟩
  exact (hagree _ [("name".toList, disguise)] (by decide +kernel)).trans rfl

end ChatEmbed
