import ChatEmbed.Blueprint
import ChatEmbed.Proofs.Json
import Mathlib.Data.List.TakeWhile

/-!
# The JSON form of an embed, entry by entry

`Embed.payload` checks that everything is there that has to be, and then puts an object together.
This file separates the two, so that nobody has to open the definition again.

* `bind_eq_ok_iff` and `mapM_eq_ok_iff` take apart what can fail.
* `requireRendered_eq_ok_iff` says what rendering makes sure of at its end.
* `Field.payload_eq_ok_iff` and `Embed.payload_eq_ok_iff` say when there is a JSON form, and that it
  consists of the entries of `Field.entries` and `Embed.entries` that say something.
* `Embed.tidy_payload` and `Embed.requireRendered_payload` say of the JSON form of an embed what
  rendering makes sure of again: no entry says nothing, and what has to be visible is.
-/

set_option autoImplicit false

namespace ChatEmbed

theorem bind_eq_ok_iff {ε α β : Type} {first : Except ε α} {next : α → Except ε β} {b : β} :
    (first >>= next) = .ok b ↔ ∃ a, first = .ok a ∧ next a = .ok b := by
  cases first <;> simp [bind, Except.bind]

/-- A traversal that can fail succeeds when every element has an answer, and gives the answers. -/
theorem mapM_eq_ok_iff {ε α β : Type} {f : α → Except ε β} {l : List α} {answers : List β} :
    l.mapM f = .ok answers ↔ l.map f = answers.map .ok := by
  induction l generalizing answers with
  | nil => cases answers <;> simp [pure, Except.pure]
  | cons a rest ih =>
    rw [List.mapM_cons, bind_eq_ok_iff, List.map_cons, @eq_comm _ (_ :: _), List.map_eq_cons_iff]
    simp only [bind_eq_ok_iff, ih]
    constructor
    · rintro ⟨first, hfirst, others, hothers, ⟨⟩⟩
      exact ⟨first, others, rfl, hfirst.symm, hothers.symm⟩
    · rintro ⟨first, others, rfl, hfirst, hothers⟩
      exact ⟨first, hfirst.symm, others, hothers.symm, rfl⟩

/-- An answer of a traversal is the answer to an element. -/
theorem exists_of_mem_of_map_eq {ε α β : Type} {f : α → Except ε β} {l : List α} {answers : List β}
    (h : l.map f = answers.map .ok) {answer : β} (hanswer : answer ∈ answers) :
    ∃ a ∈ l, f a = .ok answer := by
  rw [← List.mem_map, h]
  exact List.mem_map_of_mem hanswer

/-! ## Blank texts -/

namespace Text

theorem mem_trimStart {s : Text} {c : Char} (h : c ∈ s) (visible : isBlank c = false) :
    c ∈ trimStart s := by
  rw [← List.takeWhile_append_dropWhile (p := isBlank) (l := s), List.mem_append] at h
  refine h.resolve_left fun htake ↦ ?_
  rw [List.mem_takeWhile_imp htake] at visible
  cases visible

/-- Trimming leaves what is visible. -/
theorem mem_trim {s : Text} {c : Char} (h : c ∈ s) (visible : isBlank c = false) : c ∈ trim s := by
  rw [trim, trimEnd, List.mem_reverse]
  exact mem_trimStart (List.mem_reverse.mpr (mem_trimStart h visible)) visible

theorem isBlank_iff_forall {s : Text} : IsBlank s ↔ ∀ c ∈ s, isBlank c = true := by
  constructor
  · intro h c hc
    by_contra hvisible
    have hmem := mem_trim hc (Bool.eq_false_iff.mpr hvisible)
    rw [show trim s = [] from h] at hmem
    cases hmem
  · intro h
    have hstart : trimStart s = [] := List.dropWhile_eq_nil_iff.mpr h
    rw [IsBlank, trim, hstart]
    rfl

theorem isBlank_trim_iff {s : Text} : IsBlank (trim s) ↔ IsBlank s := by
  constructor
  · intro h
    rw [isBlank_iff_forall] at h ⊢
    intro c hc
    by_contra hvisible
    exact hvisible (h c (mem_trim hc (Bool.eq_false_iff.mpr hvisible)))
  · intro h
    rw [show trim s = [] from h]
    rfl

end Text

theorem requireFilled_eq_ok_iff {part : Part} {title text : Text} :
    requireFilled part title text = .ok () ↔ ¬Text.IsBlank title ∧ ¬Text.IsBlank text := by
  rw [requireFilled]
  split
  · next h => simp [h]
  · next h =>
    split
    · next h' => simp [h']
    · next h' => simp [h, h']

theorem requireFields_eq_ok_iff {items : List Json} :
    requireFields items = .ok () ↔ ∀ item ∈ items,
      ¬Text.IsBlank (item.textAt "name") ∧ ¬Text.IsBlank (item.textAt "value") := by
  induction items with
  | nil => simp [requireFields]
  | cons item rest ih =>
    rw [List.forall_mem_cons, ← ih, requireFields, bind_eq_ok_iff]
    constructor
    · rintro ⟨_, hitem, hrest⟩
      exact ⟨requireFilled_eq_ok_iff.mp hitem, hrest⟩
    · rintro ⟨hitem, hrest⟩
      exact ⟨(), requireFilled_eq_ok_iff.mpr hitem, hrest⟩

/-- What rendering makes sure of at its end. -/
theorem requireRendered_eq_ok_iff {value : Json} :
    requireRendered value = .ok () ↔
      ¬Text.IsBlank (value.textAt "title") ∧ ¬Text.IsBlank (value.textAt "description") ∧
        ∀ item ∈ value.itemsAt "fields",
          ¬Text.IsBlank (item.textAt "name") ∧ ¬Text.IsBlank (item.textAt "value") := by
  rw [← requireFields_eq_ok_iff, requireRendered, bind_eq_ok_iff, ← and_assoc]
  constructor
  · rintro ⟨_, hembed, hfields⟩
    exact ⟨requireFilled_eq_ok_iff.mp hembed, hfields⟩
  · rintro ⟨hembed, hfields⟩
    exact ⟨(), requireFilled_eq_ok_iff.mpr hembed, hfields⟩

/-! ## Fields -/

namespace Field

/-- The entries of the JSON form of a field, those included that may be left out. -/
def entries (field : Field) : Json.Entries :=
  [("name", .text field.title), ("value", .text field.value), ("inline", .bool field.isInline)]

/-- The keys of the JSON form of a field. -/
def keys : List Text := ["name", "value", "inline"]

theorem nodup_keys (field : Field) : (field.entries.map Prod.fst).Nodup :=
  show keys.Nodup by decide

/-- A field has a JSON form when its title and its text are visible. -/
theorem payload_eq_ok_iff {field : Field} {item : Json} :
    field.payload = .ok item ↔
      ¬Text.IsBlank field.title ∧ ¬Text.IsBlank field.value ∧ Json.filled field.entries = item := by
  rw [payload, bind_eq_ok_iff, ← and_assoc]
  constructor
  · rintro ⟨_, hfilled, ⟨⟩⟩
    exact ⟨requireFilled_eq_ok_iff.mp hfilled, rfl⟩
  · rintro ⟨hfilled, rfl⟩
    exact ⟨(), requireFilled_eq_ok_iff.mpr hfilled, rfl⟩

theorem tidy_payload {field : Field} {item : Json} (h : field.payload = .ok item) : item.Tidy := by
  obtain ⟨-, -, rfl⟩ := payload_eq_ok_iff.mp h
  exact Json.tidy_filled (by simp [entries])

end Field

/-! ## Embeds -/

namespace Embed

/-- The entries of the JSON form of an embed, those included that may be left out, if its fields
have these JSON forms. -/
def entries (embed : Embed) (items : List Json) : Json.Entries :=
  [("title", .text embed.title),
    ("description", .text (Text.trim embed.text)),
    ("url", .text embed.attributes.url),
    ("timestamp", .text embed.attributes.timestamp),
    ("color", .ofNat embed.attributes.color),
    ("footer", embed.attributes.footerPayload),
    ("fields", .list items),
    ("image", picturePayload embed.image),
    ("thumbnail", picturePayload embed.attributes.thumbnail),
    ("author", embed.attributes.authorPayload)]

/-- The keys of the JSON form of an embed. -/
def keys : List Text :=
  ["title", "description", "url", "timestamp", "color", "footer", "fields", "image", "thumbnail",
    "author"]

theorem nodup_keys (embed : Embed) (items : List Json) :
    ((embed.entries items).map Prod.fst).Nodup :=
  show keys.Nodup by decide

/-- An embed has a JSON form when its title and its text are visible and all fields have one. -/
theorem payload_eq_ok_iff {embed : Embed} {value : Json} :
    embed.payload = .ok value ↔
      ¬Text.IsBlank embed.title ∧ ¬Text.IsBlank embed.text ∧
        ∃ items, embed.fields.map Field.payload = items.map .ok ∧
          Json.filled (embed.entries items) = value := by
  rw [payload, bind_eq_ok_iff, ← and_assoc]
  simp only [bind_eq_ok_iff, mapM_eq_ok_iff]
  constructor
  · rintro ⟨_, hfilled, items, hitems, ⟨⟩⟩
    exact ⟨requireFilled_eq_ok_iff.mp hfilled, items, hitems, rfl⟩
  · rintro ⟨hfilled, items, hitems, rfl⟩
    exact ⟨(), requireFilled_eq_ok_iff.mpr hfilled, items, hitems, rfl⟩

/-- **No entry of the JSON form of an embed says nothing**, however deep. -/
theorem tidy_payload {embed : Embed} {value : Json} (h : embed.payload = .ok value) :
    value.Tidy := by
  obtain ⟨-, -, items, hitems, rfl⟩ := payload_eq_ok_iff.mp h
  have hfields : ∀ item ∈ items, item.Tidy := fun item hitem ↦ by
    obtain ⟨field, -, hfield⟩ := exists_of_mem_of_map_eq hitems hitem
    exact Field.tidy_payload hfield
  refine Json.tidy_filled ?_
  simp only [entries, List.forall_mem_cons]
  exact ⟨Json.tidy_text _, Json.tidy_text _, Json.tidy_text _, Json.tidy_text _, Json.tidy_number _,
    Json.tidy_filled (by simp), Json.tidy_list hfields, Json.tidy_filled (by simp),
    Json.tidy_filled (by simp), Json.tidy_filled (by simp), List.forall_mem_nil _⟩

/-- **The JSON form of an embed passes the checks of rendering.** -/
theorem requireRendered_payload {embed : Embed} {value : Json} (h : embed.payload = .ok value) :
    requireRendered value = .ok () := by
  obtain ⟨htitle, htext, items, hitems, rfl⟩ := payload_eq_ok_iff.mp h
  rw [requireRendered_eq_ok_iff, Json.textAt_filled (embed.nodup_keys items),
    Json.textAt_filled (embed.nodup_keys items), Json.itemsAt_filled (embed.nodup_keys items)]
  refine ⟨htitle, mt Text.isBlank_trim_iff.mp htext, fun item hitem ↦ ?_⟩
  obtain ⟨field, -, hfield⟩ := exists_of_mem_of_map_eq hitems hitem
  obtain ⟨hname, hvalue, rfl⟩ := Field.payload_eq_ok_iff.mp hfield
  rw [Json.textAt_filled field.nodup_keys, Json.textAt_filled field.nodup_keys]
  exact ⟨hname, hvalue⟩

end Embed

end ChatEmbed
