import ChatEmbed.Proofs.Declarations
import ChatEmbed.Proofs.Kinds

/-!
# The placeholders of a blueprint

Every line that declares a placeholder changes the list of those declared so far: a token that is
there gets a new default in its old place, and any other goes to the end.  So the place of a token
comes from its first declaration and its default from its last one, with anything between them.

* `Line.declaration?` is what a line declares.
* `tabulated` is the list that declarations come to, told by what they are and not by what each of
  them changes; `tabulated_concat` says that one more declaration changes just that.
* `parseLines_placeholders` says that this is the list of a blueprint that was parsed, and what it
  means for the values that a caller gives.
-/

set_option autoImplicit false

namespace ChatEmbed

/-- The placeholder that a line declares, if it declares one. -/
def Line.declaration? : Line → Option Replacement
  | .command name argument =>
    if name = "replace".toList then Replacement.read? argument else none
  | _ => none

/-- The default that the last declaration of a token gives to it, if it gives one. -/
def lastDefault? (declared : List Replacement) (token : Text) : Option Text :=
  (declared.filter (·.token = token)).getLast?.bind Replacement.default?

/-- The placeholders that declarations come to: one for each token, in the order of the first
declarations, with the default of the last one. -/
def tabulated (declared : List Replacement) : List Replacement :=
  (declared.map Replacement.token).eraseDups.map fun token ↦ ⟨token, lastDefault? declared token⟩

/-! ## Distinct tokens -/

section

variable {α : Type} [BEq α] [LawfulBEq α] {l : List α} {a : α}

theorem eraseDups_concat_of_mem (h : a ∈ l) : (l ++ [a]).eraseDups = l.eraseDups := by
  simp [List.eraseDups_append, List.removeAll, h]

theorem eraseDups_concat_of_not_mem (h : a ∉ l) : (l ++ [a]).eraseDups = l.eraseDups ++ [a] := by
  simp [List.eraseDups_append, List.removeAll, h, List.eraseDups_cons]

/-- No element is left twice. -/
theorem nodup_eraseDups (l : List α) : l.eraseDups.Nodup := by
  induction l using List.reverseRecOn with
  | nil => exact List.nodup_nil
  | append_singleton l a ih =>
    by_cases h : a ∈ l
    · rw [eraseDups_concat_of_mem h]
      exact ih
    · rw [eraseDups_concat_of_not_mem h, ← List.concat_eq_append]
      exact ih.concat (mt List.mem_eraseDups.mp h)

end

/-! ## One declaration more -/

theorem lastDefault?_concat (declared : List Replacement) (r : Replacement) (token : Text) :
    lastDefault? (declared ++ [r]) token =
      if r.token = token then r.default? else lastDefault? declared token := by
  rw [lastDefault?, lastDefault?, List.filter_append]
  split
  · next h => simp [h]
  · next h => simp [h]

namespace Replacement

variable {r : Replacement} {entry : Text → Replacement}
  (hentry : ∀ token, (entry token).token = token)

include hentry

theorem declare_of_not_mem {tokens : List Text} (h : r.token ∉ tokens) :
    r.declare (tokens.map entry) = tokens.map entry ++ [r] := by
  induction tokens with
  | nil => rfl
  | cons token rest ih =>
    rw [List.mem_cons, not_or] at h
    obtain ⟨hne, hrest⟩ := h
    rw [List.map_cons, declare, hentry, if_neg (Ne.symm hne), ih hrest, List.cons_append]

/-- A token that is there keeps its place, and no other entry changes. -/
theorem declare_of_mem {tokens : List Text} (hnodup : tokens.Nodup) (h : r.token ∈ tokens) :
    r.declare (tokens.map entry) =
      tokens.map fun token ↦ if r.token = token then r else entry token := by
  induction tokens with
  | nil => cases h
  | cons token rest ih =>
    obtain ⟨hfresh, hrest⟩ := List.nodup_cons.mp hnodup
    rw [List.map_cons, List.map_cons, declare, hentry]
    by_cases heq : token = r.token
    · rw [if_pos heq, if_pos heq.symm]
      refine congrArg _ (List.map_congr_left fun other hother ↦ ?_)
      rw [if_neg]
      rintro rfl
      exact hfresh (heq ▸ hother)
    · rw [if_neg heq, if_neg (Ne.symm heq),
        ih hrest ((List.mem_cons.mp h).resolve_left (Ne.symm heq))]

end Replacement

/-- **One declaration more** changes the list as declaring does. -/
theorem tabulated_concat (declared : List Replacement) (r : Replacement) :
    tabulated (declared ++ [r]) = r.declare (tabulated declared) := by
  rw [tabulated, tabulated, List.map_append, List.map_singleton]
  have hentry (token : Text) :
      (⟨token, lastDefault? (declared ++ [r]) token⟩ : Replacement) =
        if r.token = token then r else ⟨token, lastDefault? declared token⟩ := by
    rw [lastDefault?_concat]
    split
    · next h => rw [← h]
    · rfl
  simp only [hentry]
  by_cases h : r.token ∈ declared.map Replacement.token
  · rw [eraseDups_concat_of_mem h, Replacement.declare_of_mem (fun _ ↦ rfl) (nodup_eraseDups _)
      (List.mem_eraseDups.mpr h)]
  · have hfresh := mt List.mem_eraseDups.mp h
    rw [eraseDups_concat_of_not_mem h, Replacement.declare_of_not_mem (fun _ ↦ rfl) hfresh,
      List.map_append, List.map_singleton, if_pos rfl]
    refine congrArg (· ++ [r]) (List.map_congr_left fun token htoken ↦ if_neg ?_)
    rintro rfl
    exact hfresh htoken

theorem map_token_tabulated (declared : List Replacement) :
    (tabulated declared).map Replacement.token =
      (declared.map Replacement.token).eraseDups := by
  rw [tabulated, List.map_map]
  exact List.map_id _

/-! ## From lines to placeholders -/

theorem Line.isToken_of_declaration? {line : Line} {r : Replacement}
    (h : line.declaration? = some r) : IsToken r.token := by
  cases line with
  | command name argument =>
    rw [declaration?] at h
    split at h
    · exact (Replacement.read?_eq_some_iff.mp h).isToken
    · cases h
  | _ => cases h

section

variable {load : Text → Run ParseError (Option Template)} {kind : DocumentKind} {now : Text}

/-- A line makes the declaration that it is, or it is none and makes none. -/
theorem Makes.declaration {line : Text} {edit : Edit} (h : Makes load kind now line edit) :
    (∃ r, edit = .declare r ∧ (Line.ofSource line).declaration? = some r) ∨
      edit.isDeclaration = false ∧ (Line.ofSource line).declaration? = none := by
  cases htemplate : (Line.ofSource line).template? with
  | none =>
    have hasks := (makes_iff_of_template?_eq_none htemplate).mp h
    generalize Line.ofSource line = l at hasks
    cases hasks with
    | @declare argument declaration allowed valid =>
      exact .inl ⟨declaration, rfl, valid⟩
    | @set name argument key known =>
      have hname : name ≠ "replace".toList := by
        rintro rfl
        cases known
      exact .inr ⟨rfl, if_neg hname⟩
    | _ => exact .inr ⟨rfl, rfl⟩
  | some name =>
    obtain ⟨template, -, rfl⟩ := (makes_iff_of_template?_eq_some htemplate).mp h
    obtain ⟨argument, hline, -⟩ := Line.template?_eq_some_iff.mp htemplate
    rw [hline]
    exact .inr ⟨rfl, rfl⟩

/-- **The placeholders of a document are what its lines declare.** -/
theorem replacements_of_documentOfLines {lines : List Text} {document : Blueprint}
    (h : (documentOfLines load kind now lines).result = .ok document) :
    document.replacements =
      tabulated (lines.filterMap fun line ↦ (Line.ofSource line).declaration?) := by
  obtain ⟨edits, hedits, rfl⟩ := documentOfLines_eq_ok_iff.mp h
  refine ofEdits_induction (motive := fun lines draft ↦ draft.blueprint.replacements =
    tabulated (lines.filterMap fun line ↦ (Line.ofSource line).declaration?)) rfl ?_ hedits
  intro lines draft line edit ih hmakes
  rw [filterMap_concat]
  rcases hmakes.declaration with ⟨r, rfl, hline⟩ | ⟨hedit, hline⟩
  · rw [hline, Option.toList_some, tabulated_concat, ← ih]
    rfl
  · rw [hline, Option.toList_none, List.append_nil, replacements_apply draft hedit, ih]

end

/-! ## Values for the placeholders -/

theorem Replacement.fst_of_resolve {overrides : Overrides} {r : Replacement} {pair : Token.Pair}
    (h : r.resolve overrides = .ok pair) : pair.1 = r.token := by
  rw [resolve] at h
  split at h <;> cases h <;> rfl

/-- **The values found for a caller** are one for each placeholder, in the same order. -/
theorem Blueprint.map_fst_of_resolve {blueprint : Blueprint} {overrides : Overrides}
    {pairs : List Token.Pair} (h : blueprint.resolve overrides = .ok pairs) :
    pairs.map Prod.fst = blueprint.replacements.map Replacement.token := by
  rw [resolve, mapM_eq_ok_iff] at h
  generalize blueprint.replacements = replacements at h
  induction replacements generalizing pairs with
  | nil => rw [List.map_eq_nil_iff.mp h.symm, List.map_nil, List.map_nil]
  | cons r rest ih =>
    obtain ⟨pair, others, rfl, hpair, hothers⟩ := List.map_eq_cons_iff.mp h.symm
    rw [List.map_cons, List.map_cons, Replacement.fst_of_resolve hpair.symm, ih hothers.symm]

/-- **The placeholders of a blueprint.**  If the lines are accepted, there is one placeholder for
each token that some line declares, in the order of the first declarations, with the default of the
last one.  So no token comes twice, and each is one that can be declared.  Whatever values a caller
gives, if all that are needed are found, there is one for each placeholder, in the same order. -/
theorem parseLines_placeholders {setting : Setting} {dir : Path} {lines : List Text}
    {document : Blueprint}
    (h : (setting.parseLines .blueprint dir lines).result = .ok document) :
    document.replacements =
        tabulated (lines.filterMap fun line ↦ (Line.ofSource line).declaration?) ∧
      (document.replacements.map Replacement.token).Nodup ∧
      (∀ r ∈ document.replacements, IsToken r.token) ∧
      ∀ overrides pairs, document.resolve overrides = .ok pairs →
        pairs.map Prod.fst = document.replacements.map Replacement.token := by
  have htable := replacements_of_documentOfLines h
  refine ⟨htable, ?_, fun r hr ↦ ?_, fun overrides pairs ↦ Blueprint.map_fst_of_resolve⟩
  · rw [htable, map_token_tabulated]
    exact nodup_eraseDups _
  · have htoken : r.token ∈ document.replacements.map Replacement.token := List.mem_map_of_mem hr
    rw [htable, map_token_tabulated, List.mem_eraseDups] at htoken
    obtain ⟨declaration, hmem, heq⟩ := List.mem_map.mp htoken
    obtain ⟨line, -, hline⟩ := List.mem_filterMap.mp hmem
    exact heq ▸ Line.isToken_of_declaration? hline

/-- A card that declares a token, uses it, and declares it again without its default. -/
def redeclared : List Text :=
  ["@replace who? you".toList, "# who".toList, "@replace b?".toList, "who b".toList,
    "@replace  who ".toList]

/-- The blueprint of these lines: the first token has kept its place. -/
def redeclaredCard : Blueprint where
  embed := { title := "who".toList, text := " who b".toList }
  replacements := [⟨"who".toList, none⟩, ⟨"b".toList, some []⟩]

/-- Once the first token has lost its default, a caller has to give its value. -/
theorem parseLines_placeholders_redeclared :
    (noFiles.parseLines .blueprint "." redeclared).result = .ok redeclaredCard ∧
    redeclaredCard.replacements =
      tabulated (redeclared.filterMap fun line ↦ (Line.ofSource line).declaration?) ∧
    redeclaredCard.resolve [("c".toList, "x".toList), ("who".toList, "b".toList)] =
      .ok [("who".toList, "b".toList), ("b".toList, [])] ∧
    ["who".toList, "b".toList] = redeclaredCard.replacements.map Replacement.token := by
  have hparsed : (noFiles.parseLines .blueprint "." redeclared).result = .ok redeclaredCard := by
    decide +kernel
  have hresolve : redeclaredCard.resolve [("c".toList, "x".toList), ("who".toList, "b".toList)] =
      .ok [("who".toList, "b".toList), ("b".toList, [])] := rfl
  obtain ⟨htable, -, -, hpairs⟩ := parseLines_placeholders hparsed
  exact ⟨hparsed, htable, hresolve, hpairs _ _ hresolve⟩

end ChatEmbed
