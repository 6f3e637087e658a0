import ChatEmbed.Proofs.Json

/-!
# One pass of pruning is enough

An entry that says nothing can take its object along: once the entry is gone, the object may say
nothing itself and be gone from the object around it, and so on outwards.  Lists stop this, since no
item of a list is ever removed.  Pruning works from the inside out and goes through a value once.
This file says that nothing is left to be done after that, and what exactly is gone.

* `Json.Hollow` are the values that come to nothing, told by what is in them and not by pruning
  them.  `isEmpty_prune_iff` says that they are the ones.
* `Json.Pruned` is what becomes of a value, rule by rule: which entries go depends on the value as it
  was, and `pruned_iff` says that pruning does just that.
* `Json.prune_complete` puts this together.
-/

set_option autoImplicit false

namespace ChatEmbed
namespace Json

/-! ## What comes to nothing -/

/-- The values that come to nothing when they are pruned: they say nothing, or they are objects with
no other values than such in them.  A list with an item is none of them, whatever the item is. -/
inductive Hollow : Json → Prop
  | vacant {value : Json} (nothing : value.Vacant) : Hollow value
  | object {entries : Entries} (each : ∀ entry ∈ entries, Hollow entry.2) :
      Hollow (.object entries)

/-- **The values that say nothing once they are pruned.** -/
theorem isEmpty_prune_iff {value : Json} : value.prune.isEmpty = true ↔ value.Hollow := by
  induction value using tree_induction with
  | list items _ =>
    have hitems : (Json.list items).prune.isEmpty = (Json.list items).isEmpty := by
      rw [prune_list, isEmpty, isEmpty, List.isEmpty_map]
    rw [hitems, isEmpty_iff]
    constructor
    · exact .vacant
    · rintro ⟨nothing⟩
      exact nothing
  | object entries ih =>
    rw [prune_object, isEmpty, List.isEmpty_iff, List.filter_eq_nil_iff, List.forall_mem_map]
    simp only [Bool.not_eq_true, Bool.not_eq_false']
    rw [forall₂_congr ih]
    constructor
    · exact .object
    · intro h
      cases h with
      | object each => exact each
      | vacant nothing =>
        cases nothing
        exact List.forall_mem_nil _
  | _ =>
    rw [prune, isEmpty_iff]
    · constructor
      · exact .vacant
      · rintro ⟨nothing⟩
        exact nothing
    all_goals
      intro _ h
      cases h

/-! ## What becomes of a value -/

/-- A value, and what becomes of it when it is pruned.  Every item of a list stays.  An entry of an
object goes if its value comes to nothing, and otherwise stays in its place with its key. -/
inductive Pruned : Json → Json → Prop
  | null : Pruned .null .null
  | bool (value : Bool) : Pruned (.bool value) (.bool value)
  | number (value : Int) : Pruned (.number value) (.number value)
  | real (value : Double) : Pruned (.real value) (.real value)
  | text (value : Text) : Pruned (.text value) (.text value)
  | noItems : Pruned (.list []) (.list [])
  | item {item result : Json} {items results : List Json} (first : Pruned item result)
      (rest : Pruned (.list items) (.list results)) :
      Pruned (.list (item :: items)) (.list (result :: results))
  | noEntries : Pruned (.object []) (.object [])
  | gone {key : Text} {value : Json} {entries results : Entries} (hollow : value.Hollow)
      (rest : Pruned (.object entries) (.object results)) :
      Pruned (.object ((key, value) :: entries)) (.object results)
  | kept {key : Text} {value result : Json} {entries results : Entries} (solid : ¬value.Hollow)
      (first : Pruned value result) (rest : Pruned (.object entries) (.object results)) :
      Pruned (.object ((key, value) :: entries)) (.object ((key, result) :: results))

theorem Pruned.eq_prune {value result : Json} (h : Pruned value result) : result = value.prune := by
  induction h with
  | item first rest ihfirst ihrest =>
    rw [prune] at ihrest ⊢
    rw [pruneItems, ← ihfirst, ← Json.list.inj ihrest]
  | gone hollow rest ih =>
    rw [prune] at ih ⊢
    rw [pruneEntries, if_pos (isEmpty_prune_iff.mpr hollow), ← Json.object.inj ih]
  | kept solid first rest ihfirst ihrest =>
    rw [prune] at ihrest ⊢
    rw [pruneEntries, if_neg (mt isEmpty_prune_iff.mp solid), ← ihfirst, ← Json.object.inj ihrest]
  | _ => rfl

theorem pruned_prune (value : Json) : Pruned value value.prune := by
  induction value using tree_induction with
  | list items ih =>
    induction items with
    | nil => exact .noItems
    | cons item rest ihrest =>
      obtain ⟨hitem, hrest⟩ := List.forall_mem_cons.mp ih
      exact .item hitem (ihrest hrest)
  | object entries ih =>
    induction entries with
    | nil => exact .noEntries
    | cons entry rest ihrest =>
      obtain ⟨hvalue, hrest⟩ := List.forall_mem_cons.mp ih
      rw [prune, pruneEntries]
      split
      · next h => exact .gone (isEmpty_prune_iff.mp h) (ihrest hrest)
      · next h => exact .kept (mt isEmpty_prune_iff.mpr h) hvalue (ihrest hrest)
  | _ => constructor

/-- **What pruning makes of a value**, and nothing else. -/
theorem pruned_iff {value result : Json} : Pruned value result ↔ result = value.prune :=
  ⟨Pruned.eq_prune, fun h ↦ h ▸ pruned_prune value⟩

/-! ## Nothing left to prune -/

/-- The entries of a tidy value, told by the list of values that say nothing. -/
theorem tidy_iff {value : Json} : value.Tidy ↔ ∀ place entries,
    value.Has place (.object entries) → ∀ entry ∈ entries, ¬entry.2.Vacant := by
  simp only [Tidy, isEmpty_eq_false_iff]

/-- **One pass of pruning is enough.**  No object that is found in a pruned value, at whatever place
and be it below lists, has an entry that says nothing.  A value in which there is no such object
stays as it is, so pruning again changes nothing.  And of the value that there was before, nothing
else is gone than entries of objects that said nothing or were objects made of such entries, level
by level; items of lists stay, and so does the order. -/
theorem prune_complete (value : Json) :
    (∀ place entries, value.prune.Has place (.object entries) →
      ∀ entry ∈ entries, ¬entry.2.Vacant) ∧
    ((∀ place entries, value.Has place (.object entries) →
      ∀ entry ∈ entries, ¬entry.2.Vacant) → value.prune = value) ∧
    value.prune.prune = value.prune ∧
    ∀ result, Pruned value result ↔ result = value.prune :=
  ⟨tidy_iff.mp (tidy_prune value), fun h ↦ (tidy_iff.mpr h).prune_eq,
    (tidy_prune value).prune_eq, fun _ ↦ pruned_iff⟩

/-- Zero in double precision, with a minus sign. -/
def negativeZero : Double := ⟨0x8000000000000000, by decide⟩

/-- An object that comes to nothing three levels deep, beside lists with items that say nothing. -/
def cascade : Json :=
  .object [
    ("a".toList, .object [("b".toList, .text []), ("c".toList, .object [
      ("d".toList, .number 0), ("e".toList, .real negativeZero)])]),
    ("f".toList, .list [.object [("g".toList, .null)], .text [], .list []]),
    ("h".toList, .list []),
    ("i".toList, .object [("j".toList, .object [("k".toList, .bool false)]),
      ("l".toList, .number 1)])]

/-- What is left of it. -/
def residue : Json :=
  .object [
    ("f".toList, .list [.object [], .text [], .list []]),
    ("i".toList, .object [("l".toList, .number 1)])]

/-- The items stay, even the object that has become empty, and there is nothing more to prune. -/
theorem prune_complete_cascade :
    Pruned cascade residue ∧
    (∀ place entries, residue.Has place (.object entries) → ∀ entry ∈ entries, ¬entry.2.Vacant) ∧
    residue.prune = residue := by
  have hresidue : residue = cascade.prune := rfl
  obtain ⟨htidy, -, -, hpruned⟩ := prune_complete cascade
  rw [← hresidue] at htidy
  obtain ⟨-, hsame, -⟩ := prune_complete residue
  exact ⟨(hpruned residue).mpr hresidue, htidy, hsame htidy⟩

end Json
end ChatEmbed
