import ChatEmbed.Proofs.Joining

/-!
# What normal forms look like

Folding goes step by step, and `..` does three different things to what is folded so far: it takes
a name away, stays at the root, or is kept.  What becomes of a step depends on all steps before it,
but what is left in the end has a simple shape.

* `Reduced` is that shape, for absolute paths and for relative ones.
* `getLast?_push` says that no step takes the root away or adds one, and `isAbsolute_normalize` that
  a normal form starts where the path starts.
* `IsNormal` is a path in normal form, by its text and its steps alone, and `normalize_eq_self_iff`
  says that these are the paths that normalizing does not change.
* `normalize_normal` is the whole law of normal forms.
-/

set_option autoImplicit false

namespace ChatEmbed
namespace Path

/-- The steps of a normal form, absolute or not, as they are written: names, with the root or some
steps up in front of them. -/
inductive Reduced : Bool → List Component → Prop
  | absolute (names : List Text) : Reduced true (.root :: names.map .name)
  | relative (count : Nat) (names : List Text) :
      Reduced false (List.replicate count .up ++ names.map .name)

theorem Reduced.concat {absolute : Bool} {steps : List Component} (h : Reduced absolute steps)
    (name : Text) : Reduced absolute (steps ++ [.name name]) := by
  cases h with
  | absolute names => simpa using Reduced.absolute (names ++ [name])
  | relative count names => simpa using Reduced.relative count (names ++ [name])

/-! ## The root -/

/-- What is folded on top of something else does not change what is at its end. -/
theorem getLast?_cons_eq_root_iff {first : Component} (h : first ≠ .root)
    (below : List Component) :
    (first :: below).getLast? = some .root ↔ below.getLast? = some .root := by
  cases below with
  | nil => simp [h]
  | cons second rest => rw [List.getLast?_cons_cons]

/-- **No step takes the root away or adds one.** -/
theorem getLast?_push (stack : List Component) {step : Component} (h : step.Proper) :
    (push stack step).getLast? = some .root ↔ stack.getLast? = some .root := by
  cases step with
  | name text => exact getLast?_cons_eq_root_iff (by simp) stack
  | up =>
    rw [push.eq_def]
    dsimp only
    split
    case h_1 name below => exact (getLast?_cons_eq_root_iff (by simp) below).symm
    case h_2 => rfl
    case h_3 => exact getLast?_cons_eq_root_iff (by simp) stack
  | root | here => exact h.elim

theorem getLast?_foldl_push {steps : List Component} (h : ∀ step ∈ steps, step.Proper)
    (stack : List Component) :
    (steps.foldl push stack).getLast? = some .root ↔ stack.getLast? = some .root := by
  induction steps generalizing stack with
  | nil => rfl
  | cons step rest ih =>
    obtain ⟨hstep, hrest⟩ := List.forall_mem_cons.mp h
    rw [List.foldl_cons, ih hrest, getLast?_push stack hstep]

/-- The root is at the end of what absolute paths are folded to, and of nothing else. -/
theorem getLast?_stack (path : Path) :
    (stack path).getLast? = some .root ↔ isAbsolute path = true := by
  rw [stack_eq, steps, getLast?_foldl_push fun _ ↦ proper_of_mem_filterMap, base]
  cases isAbsolute path <;> simp

/-- **A normal form is absolute if the path is**, and only then. -/
theorem isAbsolute_normalize (path : Path) : isAbsolute (normalize path) = isAbsolute path := by
  rw [Bool.eq_iff_iff, ← getLast?_stack, ← getLast?_stack, stack_normalize]

/-! ## The steps -/

theorem Folded.reduced {stack : List Component} (h : Folded stack) :
    ∃ absolute, (stack.getLast? = some .root ↔ absolute = true) ∧
      Reduced absolute stack.reverse := by
  induction h with
  | root => exact ⟨true, by simp, .absolute []⟩
  | ups count =>
    refine ⟨false, ?_, ?_⟩
    · simp [List.getLast?_replicate]
    · simpa using Reduced.relative count []
  | @name text stack proper below ih =>
    obtain ⟨absolute, hroot, hreduced⟩ := ih
    refine ⟨absolute, ?_, ?_⟩
    · rw [getLast?_cons_eq_root_iff (by simp), hroot]
    · rw [List.reverse_cons]
      exact hreduced.concat text

theorem reduced_fold (path : Path) : Reduced (isAbsolute path) (fold path) := by
  obtain ⟨folded, hfolded, hfold⟩ := folded_fold path
  obtain ⟨absolute, hroot, hreduced⟩ := hfolded.reduced
  have hstack : stack path = folded := List.reverse_inj.mp hfold
  have habsolute : isAbsolute path = absolute := by
    rw [Bool.eq_iff_iff, ← getLast?_stack, hstack, hroot]
  rw [habsolute, hfold]
  exact hreduced

/-! ## The law -/

/-- The path is `.` alone, or it has steps, is written as they are, and they are reduced. -/
def IsNormal (path : Path) : Prop :=
  path = ['.'] ∨ components path ≠ [] ∧ ofComponents (components path) = path ∧
    Reduced (isAbsolute path) (components path)

theorem isNormal_normalize (path : Path) : IsNormal (normalize path) := by
  have hread := components_ofComponents_fold path
  have hreduced := reduced_fold path
  rw [← isAbsolute_normalize] at hreduced
  rw [normalize.eq_def] at hreduced ⊢
  split at hreduced
  case h_1 => exact .inl rfl
  case h_2 hne => exact .inr ⟨by rwa [hread], by rw [hread], by rwa [hread]⟩

theorem foldl_push_names (names : List Text) (stack : List Component) :
    (names.map .name).foldl push stack = (names.map .name).reverse ++ stack := by
  induction names generalizing stack with
  | nil => rfl
  | cons name rest ih =>
    rw [List.map_cons, List.foldl_cons, ih, List.reverse_cons, List.append_assoc]
    rfl

/-- There is nothing to fold in steps that are reduced. -/
theorem Reduced.foldl_push {absolute : Bool} {steps : List Component}
    (h : Reduced absolute steps) : steps.foldl push [] = steps.reverse := by
  cases h with
  | absolute names =>
    rw [List.foldl_cons, foldl_push_names, List.reverse_cons]
    rfl
  | relative count names =>
    have hups := (Folded.ups count).foldl_push_reverse
    rw [List.reverse_replicate] at hups
    rw [List.foldl_append, hups, foldl_push_names, List.reverse_append, List.reverse_replicate]

/-- **The paths that are their own normal form** are those in normal form. -/
theorem normalize_eq_self_iff {path : Path} : normalize path = path ↔ IsNormal path := by
  constructor
  · intro h
    rw [← h]
    exact isNormal_normalize path
  · rintro (rfl | ⟨hne, hwritten, hreduced⟩)
    · rfl
    · have hfold : fold path = components path := by
        rw [fold, hreduced.foldl_push, List.reverse_reverse]
      rw [normalize, hfold]
      split
      case h_1 hnil => exact absurd hnil hne
      case h_2 => exact hwritten

/-- **The law of normal forms.**  A normal form is `.` alone, or steps with no `.` among them and
with `..` only at the start of a relative path, and such paths are their own normal forms.  It is
absolute if the path is, and whatever is put below a path, the normal form of the path can stand
for the path. -/
theorem normalize_normal (path : Path) :
    IsNormal (normalize path) ∧ (normalize path = path ↔ IsNormal path) ∧
      isAbsolute (normalize path) = isAbsolute path ∧
      normalize (normalize path) = normalize path ∧
      ∀ below, normalize (join path below) = normalize (join (normalize path) below) :=
  ⟨isNormal_normalize path, normalize_eq_self_iff, isAbsolute_normalize path,
    normalize_normalize path, normalize_join_congr (normalize_normalize path).symm⟩

end Path
end ChatEmbed
