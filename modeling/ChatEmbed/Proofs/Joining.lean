import ChatEmbed.Proofs.Paths

/-!
# Joining paths

A path is folded step by step, so it does not matter whether the steps of a directory are folded
before the rest of the path is put below it.  The text of a path hides this: an absolute path starts
with a step of its own, a relative one may start with a `.`, and a directory may end with a separator
or be empty.

* `steps` reads the steps of a path without regard to its start, and `stack_eq` says that the start
  only decides what they are folded onto.
* `stack_join` is the law of folding a joined path, and `normalize_join_congr` what it means for
  normal forms.
* `EndsInName` is a path whose last step is a name; `EndsInName.exists_parent` is how it is folded onto
  its directory.
-/

set_option autoImplicit false

namespace ChatEmbed

/-- The pieces of two texts with a separator between them are the pieces of the one and then those
of the other. -/
theorem Text.pieces_append_separator (sep : Char) (s rest : Text) :
    pieces sep (s ++ sep :: rest) = pieces sep s ++ pieces sep rest := by
  induction s with
  | nil => exact if_pos rfl
  | cons c r ih =>
    rw [List.cons_append, pieces, pieces, ih]
    split
    · rfl
    · cases hpieces : pieces sep r with
      | nil => exact absurd hpieces (pieces_ne_nil sep r)
      | cons first others => rfl

namespace Path

/-! ## Steps and where they start -/

/-- The steps of a path without regard to its start. -/
def steps (path : Path) : List Component :=
  (Text.pieces separator path).filterMap Component.ofPiece?

/-- What the steps of a path are folded onto. -/
def base (path : Path) : List Component := if isAbsolute path then [.root] else []

/-- The folded steps of a path, last first. -/
def stack (path : Path) : List Component := (components path).foldl push []

theorem fold_eq_reverse_stack (path : Path) : fold path = (stack path).reverse := rfl

theorem steps_append_separator (s rest : Path) :
    steps (s ++ separator :: rest) = steps s ++ steps rest := by
  rw [steps, Text.pieces_append_separator, List.filterMap_append, steps, steps]

theorem steps_nil : steps [] = [] := rfl

/-- **A path is folded by its steps.**  The root of an absolute path is not among them, and a leading
`.` folds away. -/
theorem stack_eq (path : Path) : stack path = (steps path).foldl push (base path) := by
  rw [stack, components.eq_def]
  split
  · next rest => rfl
  · next other hrelative =>
    have hbase : base path = [] := by
      refine if_neg fun habsolute ↦ ?_
      obtain ⟨rest, hrest⟩ := List.head?_eq_some_iff.mp (beq_iff_eq.mp habsolute)
      exact hrelative rest hrest
    rw [hbase, steps]
    split
    · next rest hpieces => rw [hpieces]; rfl
    · rfl

/-! ## Joined paths -/

/-- The steps of a relative path come after those of the directory. -/
theorem steps_join (dir : Path) {path : Path} (hpath : isAbsolute path = false) :
    steps (join dir path) = steps dir ++ steps path := by
  rw [join, hpath]
  by_cases hempty : dir = []
  · rw [if_pos (.inr hempty), hempty, steps_nil, List.nil_append]
  · rw [if_neg (by simp [hempty])]
    split
    · next hlast =>
      -- the separator at the end of the directory stands before an empty piece
      obtain ⟨front, rfl⟩ := List.getLast?_eq_some_iff.mp hlast
      rw [List.append_assoc, List.singleton_append, steps_append_separator,
        steps_append_separator, steps_nil, List.append_nil]
    · exact steps_append_separator dir path

theorem base_join (dir : Path) {path : Path} (hpath : isAbsolute path = false) :
    base (join dir path) = base dir := by
  rw [join, hpath]
  cases dir with
  | nil => rw [if_pos (.inr rfl), base, hpath]; rfl
  | cons c rest =>
    rw [if_neg (by simp)]
    split <;> rfl

/-- **A joined path is folded onto its directory**, the directory folded first. -/
theorem stack_join (dir : Path) {path : Path} (hpath : isAbsolute path = false) :
    stack (join dir path) = (steps path).foldl push (stack dir) := by
  rw [stack_eq, stack_eq, steps_join dir hpath, base_join dir hpath, List.foldl_append]

/-- A normal form is folded to the same steps. -/
theorem stack_normalize (path : Path) : stack (normalize path) = stack path := by
  have hagain := fold_ofComponents_fold path
  rw [normalize]
  split
  · next hfold =>
    rw [fold_eq_reverse_stack, List.reverse_eq_nil_iff] at hfold
    rw [hfold]
    rfl
  · rw [fold_eq_reverse_stack, fold_eq_reverse_stack, List.reverse_inj] at hagain
    exact hagain

/-- Two paths have the same normal form when they are folded to the same steps. -/
theorem normalize_eq_normalize_iff {first second : Path} :
    normalize first = normalize second ↔ stack first = stack second := by
  constructor
  · intro h
    rw [← stack_normalize first, h, stack_normalize]
  · intro h
    rw [normalize, normalize, fold_eq_reverse_stack, fold_eq_reverse_stack, h]

/-- **Whatever is put below a directory**, only the normal form of the directory matters for that of
the whole. -/
theorem normalize_join_congr {dir other : Path} (h : normalize dir = normalize other)
    (path : Path) : normalize (join dir path) = normalize (join other path) := by
  cases hpath : isAbsolute path with
  | true => rw [join, join, if_pos (.inl hpath), if_pos (.inl hpath)]
  | false =>
    rw [normalize_eq_normalize_iff] at h ⊢
    rw [stack_join dir hpath, stack_join other hpath, h]

/-! ## Directories -/

/-- Proper steps after a `.` are read back from their text, and so is the `.`. -/
theorem components_ofComponents_here {steps : List Component} (h : ∀ step ∈ steps, step.Proper) :
    components (ofComponents (.here :: steps)) = .here :: steps := by
  have hpieces : Text.pieces separator (ofComponents (.here :: steps)) =
      ['.'] :: steps.map Component.write := by
    refine Text.pieces_join (List.cons_ne_nil _ _) (List.forall_mem_cons.mpr ⟨by decide, ?_⟩)
    exact List.forall_mem_map.mpr fun step hstep ↦ (h step hstep).separator_not_mem_write
  rw [components.eq_def]
  split
  · next rest hrest =>
    -- a path that starts with a separator has an empty first piece
    rw [hrest, Text.pieces, if_pos (show '/' = separator from rfl)] at hpieces
    exact absurd (List.cons.inj hpieces).1 (by decide)
  · rw [hpieces]
    simp only [List.filterMap_map]
    refine congrArg _ ((List.filterMap_congr fun step hstep ↦ ?_).trans List.filterMap_some)
    exact (h step hstep).ofPiece?_write

/-- The steps of a path are read back when the last one is left out. -/
theorem components_ofComponents_of_concat {path : Path} {front : List Component}
    {last : Component} (h : components path = front ++ [last]) :
    components (ofComponents front) = front := by
  obtain ⟨proper, hproper, hpath⟩ := components_cases path
  rw [h] at hpath
  rcases hpath with hpath | hpath | hpath
  · refine components_ofComponents fun step hstep ↦ hproper step ?_
    rw [← hpath]
    exact List.mem_append_left _ hstep
  · cases front with
    | nil => rfl
    | cons first rest =>
      obtain ⟨rfl, hrest⟩ := List.cons.inj hpath
      refine components_ofComponents_root fun step hstep ↦ hproper step ?_
      rw [← hrest]
      exact List.mem_append_left _ hstep
  · cases front with
    | nil => rfl
    | cons first rest =>
      obtain ⟨rfl, hrest⟩ := List.cons.inj hpath
      refine components_ofComponents_here fun step hstep ↦ hproper step ?_
      rw [← hrest]
      exact List.mem_append_left _ hstep

/-- The last step of the path is a name, and not the root, a `.` or a step up. -/
def EndsInName (path : Path) : Prop :=
  ∃ name, (components path).getLast? = some (.name name)

/-- **The directory of a path that ends in a name**, and how the path is folded onto it. -/
theorem EndsInName.exists_parent {path : Path} (h : EndsInName path) :
    ∃ dir name, parent? path = some dir ∧ stack path = .name name :: stack dir := by
  obtain ⟨name, hlast⟩ := h
  obtain ⟨front, hfront⟩ := List.getLast?_eq_some_iff.mp hlast
  refine ⟨ofComponents front, name, ?_, ?_⟩
  · simp [parent?, hfront]
  · rw [stack, stack, components_ofComponents_of_concat hfront, hfront, List.foldl_append]
    rfl

/-- Two spellings of a path that both end in a name have the same directory. -/
theorem EndsInName.normalize_parent_eq {first second : Path} (hfirst : EndsInName first)
    (hsecond : EndsInName second) (h : normalize first = normalize second) :
    ∃ dir other, parent? first = some dir ∧ parent? second = some other ∧
      normalize dir = normalize other := by
  obtain ⟨dir, name, hdir, hstack⟩ := hfirst.exists_parent
  obtain ⟨other, name', hother, hstack'⟩ := hsecond.exists_parent
  rw [normalize_eq_normalize_iff, hstack, hstack'] at h
  exact ⟨dir, other, hdir, hother, normalize_eq_normalize_iff.mpr (List.cons.inj h).2⟩

/-- What is folded to a name on top of something ends in that name in its normal form. -/
theorem endsInName_normalize {path : Path} {name : Text} {below : List Component}
    (h : stack path = .name name :: below) : EndsInName (normalize path) := by
  have hfold : fold path = below.reverse ++ [.name name] := by
    rw [fold_eq_reverse_stack, h, List.reverse_cons]
  have hread := components_ofComponents_fold path
  have hnormal : normalize path = ofComponents (fold path) := by
    rw [normalize]
    split
    · next hnil => simp [hnil] at hfold
    · rfl
  refine ⟨name, ?_⟩
  rw [hnormal, hread, hfold, List.getLast?_concat]

/-- **A name below a directory** is found in that directory, also by its normal form. -/
theorem exists_parent_normalize_join (dir : Path) {name : Text}
    (hname : (Component.name name).Proper) :
    ∃ home, parent? (normalize (join dir name)) = some home ∧ normalize home = normalize dir := by
  have hsteps : steps name = [.name name] := by
    have hread := filterMap_pieces_join (List.forall_mem_singleton.mpr hname)
    exact hread
  have habsolute : isAbsolute name = false := by
    refine Bool.eq_false_iff.mpr fun habsolute ↦ hname.2.2.2 ?_
    exact List.mem_of_mem_head? (beq_iff_eq.mp habsolute)
  have hstack : stack (join dir name) = .name name :: stack dir := by
    rw [stack_join dir habsolute, hsteps]
    rfl
  obtain ⟨home, last, hhome, hlast⟩ := (endsInName_normalize hstack).exists_parent
  rw [stack_normalize, hstack] at hlast
  exact ⟨home, hhome, (normalize_eq_normalize_iff.mpr (List.cons.inj hlast).2).symm⟩

end Path

end ChatEmbed
