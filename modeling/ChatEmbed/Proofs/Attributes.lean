import ChatEmbed.Edit

/-!
# The nine attributes, one at a time

`Attributes` holds seven texts that commands set, a color and a time.  What a document says about
one of them never depends on the others, so the statements about attributes are made for one
`Slot` at a time.

* `Slot` names an attribute, `Slot.Value` is the type of its values, `Slot.unset` the value that
  means nothing is set, and `Attributes.value` reads it.
* `Attributes.ext_value` puts a record back together from its nine values; the laws of `fillFrom`
  are proved slot by slot.
* `value_apply` says what an edit does to the value in a slot.
-/

set_option autoImplicit false

namespace ChatEmbed

/-- One of the nine attributes: a text that a command sets, the color, or the time. -/
inductive Slot
  | text (key : Attribute)
  | color
  | timestamp
deriving DecidableEq, Repr

namespace Slot

/-- What the attribute can hold. -/
abbrev Value : Slot → Type
  | .color => Nat
  | .text _ | .timestamp => Text

instance : (slot : Slot) → DecidableEq slot.Value
  | .color => inferInstanceAs (DecidableEq Nat)
  | .text _ | .timestamp => inferInstanceAs (DecidableEq Text)

/-- The value of an attribute that is not set. -/
def unset : (slot : Slot) → slot.Value
  | .color => (0 : Nat)
  | .text _ | .timestamp => ([] : Text)

end Slot

namespace Attributes

/-- The value of an attribute. -/
def value (a : Attributes) : (slot : Slot) → slot.Value
  | .text key => a.get key
  | .color => a.color
  | .timestamp => a.timestamp

/-- The nine values determine the record. -/
theorem ext_value {a b : Attributes} (h : ∀ slot, a.value slot = b.value slot) : a = b := by
  have hcolor : a.color = b.color := h .color
  have htime : a.timestamp = b.timestamp := h .timestamp
  have htext : ∀ key, a.get key = b.get key := fun key ↦ h (.text key)
  cases a
  cases b
  simp only [mk.injEq]
  exact ⟨htext .url, hcolor, htime, htext .authorName, htext .authorIcon, htext .authorUrl,
    htext .footerText, htext .footerIcon, htext .thumbnail⟩

theorem value_empty (slot : Slot) : ({} : Attributes).value slot = slot.unset := by
  cases slot with
  | text key => cases key <;> rfl
  | _ => rfl

/-- Defaults reach exactly the slots that are not set. -/
theorem value_fillFrom (a defaults : Attributes) (slot : Slot) :
    (a.fillFrom defaults).value slot =
      if a.value slot = slot.unset then defaults.value slot else a.value slot := by
  cases slot with
  | text key => exact get_fillFrom a defaults key
  | _ => rfl

/-- A record with nothing set supplies nothing. -/
theorem fillFrom_empty (a : Attributes) : a.fillFrom {} = a := by
  refine ext_value fun slot ↦ ?_
  rw [value_fillFrom, value_empty]
  split
  · next h => exact h.symm
  · rfl

/-- A record with nothing set takes over everything. -/
theorem empty_fillFrom (a : Attributes) : ({} : Attributes).fillFrom a = a := by
  refine ext_value fun slot ↦ ?_
  rw [value_fillFrom, value_empty, if_pos rfl]

/-- A record has no use for its own values. -/
theorem fillFrom_self (a : Attributes) : a.fillFrom a = a := by
  refine ext_value fun slot ↦ ?_
  rw [value_fillFrom, ite_self]

/-- **Defaults can be put together first**: a slot gets its value from the first of the records that
has one. -/
theorem fillFrom_assoc (a b c : Attributes) :
    (a.fillFrom b).fillFrom c = a.fillFrom (b.fillFrom c) := by
  refine ext_value fun slot ↦ ?_
  simp only [value_fillFrom]
  by_cases ha : a.value slot = slot.unset
  · simp only [if_pos ha]
  · simp only [if_neg ha]

end Attributes

/-! ## What an edit does to a slot -/

/-- The value that an edit puts into a slot, whatever was there before. -/
def Edit.given? : Edit → (slot : Slot) → Option slot.Value
  | .set key value, .text slot => if slot = key then some value else none
  | .color value, .color => some value
  | .timestamp time, .timestamp => some time
  | _, _ => none

/-- What an edit offers to a slot in case nothing is set there. -/
def Edit.offered : Edit → (slot : Slot) → slot.Value
  | .fill defaults, slot => defaults.value slot
  | _, slot => slot.unset

/-- The attributes of the document, as far as it has been built. -/
def Draft.attributes (draft : Draft) : Attributes := draft.blueprint.embed.attributes

theorem attributes_appendText (target : Target) (added : Text) (embed : Embed) :
    (Draft.appendText target added embed).attributes = embed.attributes := by
  cases target <;> rfl

/-- **An edit either gives a slot its value or fills the gap there.**  All other edits offer
nothing, which leaves the slot as it is. -/
theorem value_apply (draft : Draft) (edit : Edit) (slot : Slot) :
    (draft.apply edit).attributes.value slot =
      (edit.given? slot).getD
        (if draft.attributes.value slot = slot.unset then edit.offered slot
          else draft.attributes.value slot) := by
  have hkeep : ∀ v : slot.Value, (if v = slot.unset then slot.unset else v) = v := by
    intro v
    split
    · next h => exact h.symm
    · rfl
  cases edit with
  | fill defaults =>
    cases slot <;> exact Attributes.value_fillFrom _ _ _
  | set key value =>
    cases slot with
    | text other =>
      have hset := Attributes.get_set draft.attributes key other value
      simp only [Edit.given?]
      split
      · next h => rw [if_pos h] at hset; exact hset
      · next h => rw [if_neg h] at hset; exact hset.trans (hkeep _).symm
    | color => exact (Attributes.color_set _ _ _).trans (hkeep _).symm
    | timestamp => exact (Attributes.timestamp_set _ _ _).trans (hkeep _).symm
  | color value =>
    cases slot with
    | color => rfl
    | text key => cases key <;> exact (hkeep _).symm
    | timestamp => exact (hkeep _).symm
  | timestamp time =>
    cases slot with
    | timestamp => rfl
    | text key => cases key <;> exact (hkeep _).symm
    | color => exact (hkeep _).symm
  | write text =>
    have hsame : (draft.apply (.write text)).attributes = draft.attributes :=
      attributes_appendText _ _ _
    rw [hsame]
    cases slot <;> exact (hkeep _).symm
  | _ => cases slot <;> exact (hkeep _).symm

end ChatEmbed
