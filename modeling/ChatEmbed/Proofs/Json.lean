import ChatEmbed.Json.Basic
import Mathlib.Data.List.Induction
import Mathlib.Data.List.Nodup

/-!
# JSON values as trees

A JSON value is a tree whose nodes are lists and objects.  The functions on such trees go through
items and entries by recursions of their own; here they become `map` and `filter` once and for all,
and a value has one principle of induction.

* `Json.tree_induction` is induction on a value, with the claim for all items of a list and for the
  values of all entries of an object.
* `Json.Vacant` lists the values that say nothing.
* `Json.Has` says what is found in a value at a place, which is a list of `Json.Step`s.
* `Json.Tidy` is a value in which no object, at any depth, has an entry that says nothing.  Pruning
  makes a value tidy (`tidy_prune`) and leaves a tidy value alone (`Tidy.prune_eq`), and objects
  built from what says something are tidy (`tidy_filled`).
* `Entries.ofFilled_eq_filter` says what such an object is made of, if its keys are distinct.
-/

set_option autoImplicit false

namespace ChatEmbed
namespace Json

/-- **Induction on a value.** -/
@[elab_as_elim]
theorem tree_induction {motive : Json → Prop} (null : motive .null)
    (bool : ∀ value, motive (.bool value)) (number : ∀ value, motive (.number value))
    (real : ∀ value, motive (.real value)) (text : ∀ value, motive (.text value))
    (list : ∀ items, (∀ item ∈ items, motive item) → motive (.list items))
    (object : ∀ entries, (∀ entry ∈ entries, motive entry.2) → motive (.object entries))
    (value : Json) : motive value :=
  @Json.rec motive (fun items ↦ ∀ item ∈ items, motive item)
    (fun entries ↦ ∀ entry ∈ entries, motive entry.2) (fun entry ↦ motive entry.2)
    null bool number real text list object
    (List.forall_mem_nil _) (fun _ _ hitem hrest ↦ List.forall_mem_cons.mpr ⟨hitem, hrest⟩)
    (List.forall_mem_nil _) (fun _ _ hentry hrest ↦ List.forall_mem_cons.mpr ⟨hentry, hrest⟩)
    (fun _ _ hvalue ↦ hvalue) value

/-! ## Walks as operations on lists -/

theorem mapText_list (f : Text → Text) (items : List Json) :
    mapText f (.list items) = .list (items.map (mapText f)) := by
  rw [mapText]
  induction items with
  | nil => rfl
  | cons item rest ih => rw [mapTextItems, List.map_cons, Json.list.inj ih]

theorem mapText_object (f : Text → Text) (entries : Entries) :
    mapText f (.object entries) =
      .object (entries.map fun entry ↦ (entry.1, mapText f entry.2)) := by
  rw [mapText]
  induction entries with
  | nil => rfl
  | cons entry rest ih => rw [mapTextEntries, List.map_cons, Json.object.inj ih]

theorem prune_list (items : List Json) : prune (.list items) = .list (items.map prune) := by
  rw [prune]
  induction items with
  | nil => rfl
  | cons item rest ih => rw [pruneItems, List.map_cons, Json.list.inj ih]

theorem prune_object (entries : Entries) :
    prune (.object entries) = .object
      ((entries.map fun entry ↦ (entry.1, prune entry.2)).filter fun entry ↦ !entry.2.isEmpty) := by
  rw [prune]
  induction entries with
  | nil => rfl
  | cons entry rest ih =>
    rw [pruneEntries, List.map_cons, List.filter_cons, Json.object.inj ih]
    cases (prune entry.2).isEmpty <;> rfl

/-! ## Values that say nothing -/

/-- The values that say nothing. -/
inductive Vacant : Json → Prop
  | null : Vacant .null
  | false : Vacant (.bool false)
  | zero : Vacant (.number 0)
  /-- Zero in double precision, with either sign. -/
  | real {value : Double} (zero : value.units = 0) : Vacant (.real value)
  | text : Vacant (.text [])
  | list : Vacant (.list [])
  | object : Vacant (.object [])

theorem isZero_iff {value : Double} : value.isZero = true ↔ value.units = 0 := by
  have hpower : Nat.pow 2 value.scale ≠ 0 := Nat.ne_of_gt (Nat.two_pow_pos value.scale)
  rw [Double.isZero, decide_eq_true_iff, Double.units, Nat.mul_eq_zero, or_iff_left hpower]

theorem isEmpty_iff {value : Json} : value.isEmpty = true ↔ value.Vacant := by
  constructor
  · intro h
    cases value with
    | null => exact .null
    | bool value =>
      cases value with
      | true => cases h
      | false => exact .false
    | number value =>
      obtain rfl : value = 0 := beq_iff_eq.mp h
      exact .zero
    | real value => exact .real (isZero_iff.mp h)
    | text value =>
      obtain rfl := List.isEmpty_iff.mp h
      exact .text
    | list items =>
      obtain rfl := List.isEmpty_iff.mp h
      exact .list
    | object entries =>
      obtain rfl := List.isEmpty_iff.mp h
      exact .object
  · intro h
    cases h with
    | real zero => exact isZero_iff.mpr zero
    | _ => rfl

theorem isEmpty_eq_false_iff {value : Json} : value.isEmpty = false ↔ ¬value.Vacant := by
  rw [← isEmpty_iff, Bool.not_eq_true]

/-! ## Places -/

/-- A step from a value to a part of it. -/
inductive Step
  | key (name : Text)
  | index (i : Nat)
deriving DecidableEq, Repr

/-- What is found in a value at a place. -/
inductive Has : Json → List Step → Json → Prop
  | here (value : Json) : Has value [] value
  | item {items : List Json} {i : Nat} {item part : Json} {place : List Step}
      (there : items[i]? = some item) (below : item.Has place part) :
      Has (.list items) (.index i :: place) part
  | entry {entries : Entries} {key : Text} {value part : Json} {place : List Step}
      (there : (key, value) ∈ entries) (below : value.Has place part) :
      Has (.object entries) (.key key :: place) part

/-- A value with something in it says something. -/
theorem Has.isEmpty_eq_false {value part : Json} {step : Step} {place : List Step}
    (h : value.Has (step :: place) part) : value.isEmpty = false := by
  cases h with
  | item there below =>
    rw [isEmpty, List.isEmpty_eq_false_iff]
    exact List.ne_nil_of_mem (List.mem_of_getElem? there)
  | entry there below =>
    rw [isEmpty, List.isEmpty_eq_false_iff]
    exact List.ne_nil_of_mem there

/-! ## Values without entries that say nothing -/

/-- No object in the value, at any depth, has an entry that says nothing. -/
def Tidy (value : Json) : Prop :=
  ∀ place entries, value.Has place (.object entries) → ∀ entry ∈ entries, entry.2.isEmpty = false

@[simp] theorem tidy_bool (value : Bool) : (Json.bool value).Tidy := by
  intro place entries h
  cases h

@[simp] theorem tidy_number (value : Int) : (Json.number value).Tidy := by
  intro place entries h
  cases h

@[simp] theorem tidy_text (value : Text) : (Json.text value).Tidy := by
  intro place entries h
  cases h

theorem tidy_list {items : List Json} (h : ∀ item ∈ items, item.Tidy) : (Json.list items).Tidy := by
  intro place entries hhas
  cases hhas with
  | item there below => exact h _ (List.mem_of_getElem? there) _ _ below

theorem tidy_object {entries : Entries} (hfilled : ∀ entry ∈ entries, entry.2.isEmpty = false)
    (h : ∀ entry ∈ entries, entry.2.Tidy) : (Json.object entries).Tidy := by
  intro place inner hhas
  cases hhas with
  | here => exact hfilled
  | entry there below => exact h _ there _ _ below

theorem Tidy.item {items : List Json} (h : (Json.list items).Tidy) {item : Json} {i : Nat}
    (there : items[i]? = some item) : item.Tidy :=
  fun _ _ hhas ↦ h _ _ (.item there hhas)

theorem Tidy.entry {entries : Entries} (h : (Json.object entries).Tidy) {key : Text} {value : Json}
    (there : (key, value) ∈ entries) : value.Tidy :=
  fun _ _ hhas ↦ h _ _ (.entry there hhas)

theorem Tidy.isEmpty_eq_false {entries : Entries} (h : (Json.object entries).Tidy)
    {entry : Text × Json} (there : entry ∈ entries) : entry.2.isEmpty = false :=
  h [] entries (.here _) entry there

/-- **Pruning leaves no entry that says nothing**, however deep. -/
theorem tidy_prune (value : Json) : value.prune.Tidy := by
  induction value using tree_induction with
  | list items ih =>
    rw [prune_list]
    exact tidy_list (List.forall_mem_map.mpr ih)
  | object entries ih =>
    rw [prune_object]
    refine tidy_object (fun entry hentry ↦ ?_) (fun entry hentry ↦ ?_)
    · simpa using (List.mem_filter.mp hentry).2
    · obtain ⟨original, horiginal, rfl⟩ := List.mem_map.mp (List.mem_filter.mp hentry).1
      exact ih original horiginal
  | _ =>
    intro place entries h
    cases h

/-- **Pruning has nothing to do** where no entry says nothing. -/
theorem Tidy.prune_eq {value : Json} (h : value.Tidy) : value.prune = value := by
  induction value using Json.tree_induction with
  | list items ih =>
    have hitems : ∀ item ∈ items, item.prune = item := by
      intro item hitem
      obtain ⟨i, hi⟩ := List.getElem?_of_mem hitem
      exact ih item hitem (h.item hi)
    rw [prune_list, List.map_congr_left hitems, List.map_id']
  | object entries ih =>
    have hentries : entries.map (fun entry ↦ (entry.1, prune entry.2)) = entries := by
      refine (List.map_congr_left fun entry hentry ↦ ?_).trans (List.map_id' entries)
      rw [ih entry hentry (h.entry hentry)]
    have hfilled : ∀ entry ∈ entries, (!entry.2.isEmpty) = true := by
      intro entry hentry
      rw [h [] entries (.here _) entry hentry]
      rfl
    rw [prune_object, hentries, List.filter_eq_self.mpr hfilled]
  | _ => rfl

/-! ## Objects of entries that say something -/

theorem Entries.of_mem_insert {entries : Entries} {key : Text} {value : Json} {entry : Text × Json}
    (h : entry ∈ Entries.insert key value entries) : entry = (key, value) ∨ entry ∈ entries := by
  induction entries with
  | nil => exact .inl (List.mem_singleton.mp h)
  | cons first rest ih =>
    rw [Entries.insert] at h
    split at h
    · next hkey =>
      rw [hkey] at h
      exact (List.mem_cons.mp h).imp_right (List.mem_cons_of_mem _)
    · rcases List.mem_cons.mp h with rfl | hrest
      · exact .inr List.mem_cons_self
      · exact (ih hrest).imp_right (List.mem_cons_of_mem _)

/-- One more entry is inserted into those that are there. -/
theorem Entries.ofFilled_concat (entries : Entries) (last : Text × Json) :
    ofFilled (entries ++ [last]) = (ofFilled entries).insertFilled last.1 last.2 :=
  List.foldl_append

/-- An object of what says something holds nothing else. -/
theorem Entries.of_mem_ofFilled {entries : Entries} {entry : Text × Json}
    (h : entry ∈ Entries.ofFilled entries) : entry ∈ entries ∧ entry.2.isEmpty = false := by
  induction entries using List.reverseRecOn with
  | nil => cases h
  | append_singleton entries last ih =>
    rw [ofFilled_concat, insertFilled] at h
    split at h
    · exact ⟨List.mem_append_left _ (ih h).1, (ih h).2⟩
    · next hfilled =>
      rcases of_mem_insert h with rfl | hbefore
      · exact ⟨List.mem_append_right _ (List.mem_singleton_self _), Bool.eq_false_iff.mpr hfilled⟩
      · exact ⟨List.mem_append_left _ (ih hbefore).1, (ih hbefore).2⟩

/-- A new key goes to the end. -/
theorem Entries.insert_of_not_mem {entries : Entries} {key : Text}
    (h : key ∉ entries.map Prod.fst) (value : Json) :
    Entries.insert key value entries = entries ++ [(key, value)] := by
  induction entries with
  | nil => rfl
  | cons entry rest ih =>
    rw [List.map_cons, List.mem_cons, not_or] at h
    obtain ⟨hkey, hrest⟩ := h
    rw [Entries.insert, if_neg (Ne.symm hkey), ih hrest, List.cons_append]

/-- **Entries with distinct keys, inserted one after the other**: those that say something stay, in
order, and the others are left out. -/
theorem Entries.ofFilled_eq_filter {entries : Entries} (h : (entries.map Prod.fst).Nodup) :
    Entries.ofFilled entries = entries.filter fun entry ↦ !entry.2.isEmpty := by
  induction entries using List.reverseRecOn with
  | nil => rfl
  | append_singleton entries entry ih =>
    rw [List.map_append, List.map_singleton, List.nodup_append] at h
    obtain ⟨hentries, -, hnew⟩ := h
    have hkey : entry.1 ∉ (entries.filter fun entry ↦ !entry.2.isEmpty).map Prod.fst :=
      fun hmem ↦ hnew _ ((List.filter_sublist.map _).subset hmem) _ (List.mem_singleton_self _) rfl
    rw [ofFilled_concat, ih hentries, List.filter_append, insertFilled]
    cases hempty : entry.2.isEmpty with
    | true => simp [hempty]
    | false => simp [hempty, insert_of_not_mem hkey]

theorem filled_eq {entries : Entries} (h : (entries.map Prod.fst).Nodup) :
    filled entries = .object (entries.filter fun entry ↦ !entry.2.isEmpty) := by
  rw [filled, Entries.ofFilled_eq_filter h]

/-- An object of what says something is tidy if all that goes into it is. -/
theorem tidy_filled {entries : Entries} (h : ∀ entry ∈ entries, entry.2.Tidy) :
    (filled entries).Tidy :=
  tidy_object (fun _ hentry ↦ (Entries.of_mem_ofFilled hentry).2)
    fun entry hentry ↦ h entry (Entries.of_mem_ofFilled hentry).1

/-! ## Looking up what is left -/

theorem exists_mem_of_get? {value found : Json} {key : Text} (h : value.get? key = some found) :
    ∃ entries, value = .object entries ∧ (key, found) ∈ entries := by
  cases value with
  | object entries =>
    obtain ⟨before, after, rfl, -⟩ := List.lookup_eq_some_iff.mp h
    exact ⟨_, rfl, List.mem_append_right _ List.mem_cons_self⟩
  | _ => cases h

theorem exists_get?_of_mem_itemsAt {value item : Json} {key : Text}
    (h : item ∈ value.itemsAt key) : ∃ items, value.get? key = some (.list items) ∧ item ∈ items := by
  rw [itemsAt] at h
  split at h
  · next items hitems => exact ⟨items, hitems, h⟩
  · cases h

/-- What is under a key of a tidy value says something, and is tidy itself. -/
theorem Tidy.of_get? {value found : Json} (h : value.Tidy) {key : Text}
    (hfound : value.get? key = some found) : found.isEmpty = false ∧ found.Tidy := by
  obtain ⟨entries, rfl, hmem⟩ := exists_mem_of_get? hfound
  exact ⟨h.isEmpty_eq_false hmem, h.entry hmem⟩

/-- A function on values does not notice under which keys they are. -/
theorem get?_map (f : Json → Json) (entries : Entries) (key : Text) :
    (Json.object (entries.map fun entry ↦ (entry.1, f entry.2))).get? key =
      ((Json.object entries).get? key).map f := by
  rw [get?, get?]
  induction entries with
  | nil => rfl
  | cons entry rest ih =>
    rw [List.map_cons, List.lookup_cons, List.lookup_cons]
    cases key == entry.1 with
    | true => rfl
    | false => exact ih

/-- Of distinct keys, those with a value that says something are found as before. -/
theorem get?_filter {entries : Entries} (h : (entries.map Prod.fst).Nodup) (key : Text) :
    (Json.object (entries.filter fun entry ↦ !entry.2.isEmpty)).get? key =
      ((Json.object entries).get? key).filter fun value ↦ !value.isEmpty := by
  rw [get?, get?]
  induction entries with
  | nil => rfl
  | cons entry rest ih =>
    obtain ⟨k, value⟩ := entry
    rw [List.map_cons, List.nodup_cons] at h
    obtain ⟨hnew, hrest⟩ := h
    have hfresh : k ∉ (rest.filter fun entry ↦ !entry.2.isEmpty).map Prod.fst :=
      fun hmem ↦ hnew ((List.filter_sublist.map _).subset hmem)
    by_cases hkey : key = k
    · subst hkey
      cases hempty : value.isEmpty with
      | true =>
        have hnone : (rest.filter fun entry ↦ !entry.2.isEmpty).lookup key = none := by
          rw [List.lookup_eq_none_iff]
          intro entry hentry
          rw [bne_iff_ne]
          rintro rfl
          exact hfresh (List.mem_map_of_mem hentry)
        simp [hempty, hnone, Option.filter]
      | false => simp [hempty, Option.filter]
    · have hne : (key == k) = false := beq_eq_false_iff_ne.mpr hkey
      cases hempty : value.isEmpty <;> simp [hempty, hne, List.lookup_cons, ih hrest]

/-- What a reader makes of the value under a key of an object.  A key that is not there is read as
null. -/
def readAt {α : Type} (read : Json → α) (key : Text) (value : Json) : α :=
  read ((value.get? key).getD .null)

/-- The text that a value is, or the empty text. -/
def asText : Json → Text
  | .text s => s
  | _ => []

/-- The items of the list that a value is, or none. -/
def asItems : Json → List Json
  | .list items => items
  | _ => []

theorem readAt_asText (key : Text) (value : Json) : value.readAt asText key = value.textAt key := by
  rw [readAt, textAt]
  cases value.get? key with
  | none => rfl
  | some found => cases found <;> rfl

theorem readAt_asItems (key : Text) (value : Json) :
    value.readAt asItems key = value.itemsAt key := by
  rw [readAt, itemsAt]
  cases value.get? key with
  | none => rfl
  | some found => cases found <;> rfl

theorem asText_of_isEmpty {value : Json} (h : value.isEmpty = true) : asText value = [] := by
  cases value with
  | text s => exact List.isEmpty_iff.mp h
  | _ => rfl

theorem asItems_of_isEmpty {value : Json} (h : value.isEmpty = true) : asItems value = [] := by
  cases value with
  | list items => exact List.isEmpty_iff.mp h
  | _ => rfl

/-- **Reading does not notice that entries are gone** if what they said is read like null. -/
theorem readAt_filter {α : Type} {read : Json → α} {entries : Entries}
    (h : (entries.map Prod.fst).Nodup)
    (hread : ∀ value : Json, value.isEmpty = true → read value = read .null) (key : Text) :
    (Json.object (entries.filter fun entry ↦ !entry.2.isEmpty)).readAt read key =
      (Json.object entries).readAt read key := by
  rw [readAt, readAt, get?_filter h]
  cases (Json.object entries).get? key with
  | none => rfl
  | some value =>
    rw [Option.filter_some]
    cases hempty : value.isEmpty with
    | true => exact (hread value hempty).symm
    | false => rfl

/-- The text under a key does not notice that entries without text are gone. -/
theorem textAt_filter {entries : Entries} (h : (entries.map Prod.fst).Nodup) (key : Text) :
    (Json.object (entries.filter fun entry ↦ !entry.2.isEmpty)).textAt key =
      (Json.object entries).textAt key := by
  rw [← readAt_asText, ← readAt_asText]
  exact readAt_filter h (fun _ ↦ asText_of_isEmpty) key

/-- The items under a key do not notice that entries without items are gone. -/
theorem itemsAt_filter {entries : Entries} (h : (entries.map Prod.fst).Nodup) (key : Text) :
    (Json.object (entries.filter fun entry ↦ !entry.2.isEmpty)).itemsAt key =
      (Json.object entries).itemsAt key := by
  rw [← readAt_asItems, ← readAt_asItems]
  exact readAt_filter h (fun _ ↦ asItems_of_isEmpty) key

/-! ## Looking up what was put together -/

theorem readAt_filled {α : Type} {read : Json → α} {entries : Entries}
    (h : (entries.map Prod.fst).Nodup)
    (hread : ∀ value : Json, value.isEmpty = true → read value = read .null) (key : Text) :
    (filled entries).readAt read key = (Json.object entries).readAt read key := by
  rw [filled_eq h, readAt_filter h hread]

theorem textAt_filled {entries : Entries} (h : (entries.map Prod.fst).Nodup) (key : Text) :
    (filled entries).textAt key = (Json.object entries).textAt key := by
  rw [filled_eq h, textAt_filter h]

theorem itemsAt_filled {entries : Entries} (h : (entries.map Prod.fst).Nodup) (key : Text) :
    (filled entries).itemsAt key = (Json.object entries).itemsAt key := by
  rw [filled_eq h, itemsAt_filter h]

end Json
end ChatEmbed
