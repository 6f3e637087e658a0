import ChatEmbed.Path
import Mathlib.Data.List.Basic

/-!
# Normal forms of paths

Two paths can differ in their spelling and still lead to the same place, so files are kept under
normal forms.  For this to work the normal form must be a normal form: normalizing it again must
change nothing.

* `Component.Proper` is a step that may stand anywhere but at the start of a path, and
  `components_ofComponents` reads such steps back from the text they are written as.
* `Folded` is what `push` keeps up: names on top of steps up, or on top of the root.
* `normalize_normalize` puts the two together.
-/

set_option autoImplicit false

namespace ChatEmbed

namespace Path

/-! ## Steps and their text -/

/-- A step that may stand anywhere but at the start of a path.  A name is not one of the texts that
mean something else, and does not reach over a separator. -/
def Component.Proper : Component → Prop
  | .up => True
  | .name text => text ≠ [] ∧ text ≠ ['.'] ∧ text ≠ ['.', '.'] ∧ separator ∉ text
  | .root | .here => False

namespace Component

/-- A proper step is read as what it was written for. -/
theorem Proper.ofPiece?_write {step : Component} (h : step.Proper) :
    ofPiece? step.write = some step := by
  cases step with
  | up => rfl
  | name text =>
    obtain ⟨hempty, hhere, hup, -⟩ := h
    rw [write, ofPiece?, if_neg (not_or.mpr ⟨hempty, hhere⟩), if_neg hup]
  | root | here => exact h.elim

theorem Proper.separator_not_mem_write {step : Component} (h : step.Proper) :
    separator ∉ step.write := by
  cases step with
  | up => decide
  | name text => exact h.2.2.2
  | root | here => exact h.elim

theorem Proper.write_ne_nil {step : Component} (h : step.Proper) : step.write ≠ [] := by
  cases step with
  | up => decide
  | name text => exact h.1
  | root | here => exact h.elim

theorem Proper.write_ne_here {step : Component} (h : step.Proper) : step.write ≠ ['.'] := by
  cases step with
  | up => decide
  | name text => exact h.2.1
  | root | here => exact h.elim

/-- What is read from a piece between separators is proper. -/
theorem proper_of_ofPiece? {piece : Text} {step : Component} (h : ofPiece? piece = some step)
    (hpiece : separator ∉ piece) : step.Proper := by
  rw [ofPiece?] at h
  split at h
  · cases h
  · next hskip =>
    split at h
    · cases h
      trivial
    · next hup =>
      cases h
      exact ⟨fun hnil ↦ hskip (.inl hnil), fun hhere ↦ hskip (.inr hhere), hup, hpiece⟩

end Component

/-- The steps that are read from a text without regard to its start. -/
theorem proper_of_mem_filterMap {s : Text} {step : Component}
    (h : step ∈ (Text.pieces separator s).filterMap Component.ofPiece?) : step.Proper := by
  obtain ⟨piece, hpiece, hstep⟩ := List.mem_filterMap.mp h
  exact Component.proper_of_ofPiece? hstep (Text.not_mem_of_mem_pieces hpiece)

/-- **The shape of a path**: proper steps, which may have the root or a `.` in front of them. -/
theorem components_cases (path : Path) :
    ∃ steps : List Component, (∀ step ∈ steps, step.Proper) ∧
      (components path = steps ∨ components path = .root :: steps ∨
        components path = .here :: steps) := by
  rw [components.eq_def]
  split
  · next rest => exact ⟨_, fun _ ↦ proper_of_mem_filterMap, .inr (.inl rfl)⟩
  · next other _ =>
    split
    · next rest hrest =>
      refine ⟨_, fun step hstep ↦ ?_, .inr (.inr rfl)⟩
      have hmem : step ∈ (Text.pieces separator path).filterMap Component.ofPiece? := by
        rw [hrest]
        exact hstep
      exact proper_of_mem_filterMap hmem
    · exact ⟨_, fun _ ↦ proper_of_mem_filterMap, .inl rfl⟩

/-- The text of proper steps has one piece for each of them. -/
theorem pieces_join_write {steps : List Component} (hne : steps ≠ [])
    (h : ∀ step ∈ steps, step.Proper) :
    Text.pieces separator (Text.join [separator] (steps.map Component.write)) =
      steps.map Component.write := by
  refine Text.pieces_join (fun hnil ↦ hne (List.map_eq_nil_iff.mp hnil)) ?_
  exact List.forall_mem_map.mpr fun step hstep ↦ (h step hstep).separator_not_mem_write

/-- Proper steps are read back from their text. -/
theorem filterMap_pieces_join {steps : List Component} (h : ∀ step ∈ steps, step.Proper) :
    (Text.pieces separator (Text.join [separator] (steps.map Component.write))).filterMap
      Component.ofPiece? = steps := by
  by_cases hne : steps = []
  · subst hne
    rfl
  rw [pieces_join_write hne h, List.filterMap_map]
  refine (List.filterMap_congr fun step hstep ↦ ?_).trans List.filterMap_some
  exact (h step hstep).ofPiece?_write

theorem components_ofComponents_root {steps : List Component} (h : ∀ step ∈ steps, step.Proper) :
    components (ofComponents (.root :: steps)) = .root :: steps :=
  congrArg _ (filterMap_pieces_join h)

/-- **Steps are read back from the path they are written as.** -/
theorem components_ofComponents {steps : List Component} (h : ∀ step ∈ steps, step.Proper) :
    components (ofComponents steps) = steps := by
  cases steps with
  | nil => rfl
  | cons first rest =>
    have hfirst := h first List.mem_cons_self
    have htext : ofComponents (first :: rest) =
        Text.join [separator] ((first :: rest).map Component.write) := by
      cases first with
      | root => exact hfirst.elim
      | _ => rfl
    have hpieces := pieces_join_write (List.cons_ne_nil first rest) h
    rw [← htext] at hpieces
    rw [components.eq_def]
    split
    · next tail htail =>
      -- a path that starts with a separator has an empty first piece
      rw [htail, Text.pieces, if_pos (show '/' = separator from rfl)] at hpieces
      exact absurd (List.cons.inj hpieces).1.symm hfirst.write_ne_nil
    · rw [hpieces]
      split
      · next tail htail => exact absurd (List.cons.inj htail).1 hfirst.write_ne_here
      · rw [← hpieces, htext]
        exact filterMap_pieces_join h

/-! ## Folding -/

/-- The steps of a folded path, listed last first: names on top of steps up, or on top of the
root. -/
inductive Folded : List Component → Prop
  | root : Folded [.root]
  | ups (count : Nat) : Folded (List.replicate count .up)
  | name {text : Text} {stack : List Component} (proper : (Component.name text).Proper)
      (below : Folded stack) : Folded (.name text :: stack)

/-- **A step keeps a folded path folded.** -/
theorem Folded.push {stack : List Component} (h : Folded stack) {step : Component}
    (hstep : step.Proper) : Folded (push stack step) := by
  cases step with
  | name text => exact .name hstep h
  | up =>
    cases h with
    | root => exact .root
    | ups count =>
      cases count with
      | zero => exact .ups 1
      | succ count => exact .ups (count + 2)
    | name proper below => exact below
  | root | here => exact hstep.elim

theorem Folded.foldl_push {steps stack : List Component} (hstack : Folded stack)
    (hsteps : ∀ step ∈ steps, step.Proper) : Folded (steps.foldl Path.push stack) := by
  induction steps generalizing stack with
  | nil => exact hstack
  | cons step rest ih =>
    obtain ⟨hstep, hrest⟩ := List.forall_mem_cons.mp hsteps
    exact ih (hstack.push hstep) hrest

/-- Folding a path gives folded steps. -/
theorem folded_fold (path : Path) : ∃ stack, Folded stack ∧ fold path = stack.reverse := by
  obtain ⟨steps, hsteps, hpath⟩ := components_cases path
  refine ⟨_, ?_, rfl⟩
  rcases hpath with hpath | hpath | hpath
  · rw [hpath]
    exact Folded.foldl_push (.ups 0) hsteps
  · rw [hpath, List.foldl_cons]
    exact Folded.foldl_push .root hsteps
  · rw [hpath, List.foldl_cons]
    exact Folded.foldl_push (.ups 0) hsteps

/-- Folded steps are not folded any further. -/
theorem Folded.foldl_push_reverse {stack : List Component} (h : Folded stack) :
    stack.reverse.foldl Path.push [] = stack := by
  induction h with
  | root => rfl
  | ups count =>
    rw [List.reverse_replicate]
    induction count with
    | zero => rfl
    | succ count ih =>
      rw [List.replicate_succ', List.foldl_append, ih, ← List.replicate_succ']
      cases count <;> rfl
  | name proper below ih => rw [List.reverse_cons, List.foldl_append, ih]; rfl

/-- Folded steps are proper, but for a root at the start. -/
theorem Folded.reverse_cases {stack : List Component} (h : Folded stack) :
    ∃ steps : List Component, (∀ step ∈ steps, step.Proper) ∧
      (stack.reverse = steps ∨ stack.reverse = .root :: steps) := by
  induction h with
  | root => exact ⟨[], List.forall_mem_nil _, .inr rfl⟩
  | ups count =>
    refine ⟨List.replicate count .up, fun step hstep ↦ ?_, .inl List.reverse_replicate⟩
    rw [List.eq_of_mem_replicate hstep]
    trivial
  | @name text stack proper below ih =>
    obtain ⟨steps, hsteps, hstack⟩ := ih
    refine ⟨steps ++ [.name text], ?_, ?_⟩
    · exact List.forall_mem_append.mpr ⟨hsteps, List.forall_mem_singleton.mpr proper⟩
    · rw [List.reverse_cons]
      rcases hstack with hstack | hstack
      · exact .inl (by rw [hstack])
      · exact .inr (by rw [hstack, List.cons_append])

/-- A folded path is read back from its text. -/
theorem components_ofComponents_fold (path : Path) :
    components (ofComponents (fold path)) = fold path := by
  obtain ⟨stack, hstack, hfold⟩ := folded_fold path
  obtain ⟨steps, hsteps, hshape⟩ := hstack.reverse_cases
  rw [hfold]
  rcases hshape with hshape | hshape
  · rw [hshape]
    exact components_ofComponents hsteps
  · rw [hshape]
    exact components_ofComponents_root hsteps

/-- A folded path is read back and folded to itself. -/
theorem fold_ofComponents_fold (path : Path) : fold (ofComponents (fold path)) = fold path := by
  obtain ⟨stack, hstack, hfold⟩ := folded_fold path
  rw [fold, components_ofComponents_fold, hfold, hstack.foldl_push_reverse]

/-- **A normal form is its own normal form.** -/
theorem normalize_normalize (path : Path) : normalize (normalize path) = normalize path := by
  rw [normalize.eq_def path]
  cases hfold : fold path with
  | nil => rfl
  | cons first rest =>
    dsimp only
    have hagain := fold_ofComponents_fold path
    rw [hfold] at hagain
    rw [normalize, hagain]

end Path
end ChatEmbed
