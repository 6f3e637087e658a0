import ChatEmbed.Proofs.Rendering

/-!
# How rendering ends

Rendering has three sources of errors: a placeholder without a value, an embed without a JSON form,
and values that leave nothing visible where something has to be.  The last of these is looked for in
a JSON form from which the empty entries are gone already.  This file says how rendering ends in
terms of the document.

* `Requirement` is a text that has to be visible, `demand` goes through some of them in order, and
  `FirstBlank` says which error is found.
* `Embed.required` lists the texts of an embed that have to be visible.  `Embed.payload_eq_demand`
  and `Embed.requireRendered_form` say that the same list is gone through before and after the
  substitution of tokens.
* `Blueprint.Outcome` has one case for each way in which rendering can end, and
  `Blueprint.render_eq_iff` says that these are the ways.
-/

set_option autoImplicit false

namespace ChatEmbed

/-! ## Texts that have to be visible -/

/-- A text that has to be visible, with the error if it is not. -/
abbrev Requirement := Text × ContentError

/-- Accepts texts that are all visible. -/
def demand : List Requirement → Except ContentError Unit
  | [] => .ok ()
  | (text, error) :: rest => if Text.IsBlank text then .error error else demand rest

/-- The first text that is blank comes with this error. -/
def FirstBlank (required : List Requirement) (error : ContentError) : Prop :=
  ∃ before text after, required = before ++ (text, error) :: after ∧
    (∀ earlier ∈ before, ¬Text.IsBlank earlier.1) ∧ Text.IsBlank text

theorem demand_cons_of_isBlank {text : Text} (h : Text.IsBlank text) (error : ContentError)
    (rest : List Requirement) : demand ((text, error) :: rest) = .error error :=
  if_pos h

theorem demand_cons_of_not_isBlank {requirement : Requirement}
    (h : ¬Text.IsBlank requirement.1) (rest : List Requirement) :
    demand (requirement :: rest) = demand rest :=
  if_neg h

theorem demand_append (first second : List Requirement) :
    demand (first ++ second) = (demand first >>= fun _ ↦ demand second) := by
  induction first with
  | nil => rfl
  | cons requirement rest ih =>
    by_cases h : Text.IsBlank requirement.1
    · rw [List.cons_append, demand_cons_of_isBlank h, demand_cons_of_isBlank h]
      rfl
    · rw [List.cons_append, demand_cons_of_not_isBlank h, demand_cons_of_not_isBlank h, ih]

theorem demand_eq_ok {required : List Requirement}
    (h : ∀ requirement ∈ required, ¬Text.IsBlank requirement.1) : demand required = .ok () := by
  induction required with
  | nil => rfl
  | cons requirement rest ih =>
    obtain ⟨hfirst, hrest⟩ := List.forall_mem_cons.mp h
    rw [demand_cons_of_not_isBlank hfirst, ih hrest]

theorem FirstBlank.demand_eq {required : List Requirement} {error : ContentError}
    (h : FirstBlank required error) : demand required = .error error := by
  obtain ⟨before, text, after, rfl, hbefore, hblank⟩ := h
  rw [demand_append, demand_eq_ok hbefore, demand_cons_of_isBlank hblank]
  rfl

theorem FirstBlank.append_left {front required : List Requirement} {error : ContentError}
    (h : FirstBlank required error) (hfront : ∀ requirement ∈ front, ¬Text.IsBlank requirement.1) :
    FirstBlank (front ++ required) error := by
  obtain ⟨before, text, after, rfl, hbefore, hblank⟩ := h
  exact ⟨front ++ before, text, after, (List.append_assoc ..).symm,
    List.forall_mem_append.mpr ⟨hfront, hbefore⟩, hblank⟩

theorem FirstBlank.append_right {required : List Requirement} {error : ContentError}
    (h : FirstBlank required error) (rest : List Requirement) :
    FirstBlank (required ++ rest) error := by
  obtain ⟨before, text, after, rfl, hbefore, hblank⟩ := h
  exact ⟨before, text, after ++ rest, List.append_assoc .., hbefore, hblank⟩

/-- Of the elements of a list that pass a test there is a first one, unless there are none. -/
theorem forall_not_or_exists_first {α : Type} (p : α → Prop) [DecidablePred p] (l : List α) :
    (∀ a ∈ l, ¬p a) ∨
      ∃ before a after, l = before ++ a :: after ∧ (∀ earlier ∈ before, ¬p earlier) ∧ p a := by
  cases hfind : l.find? (p ·) with
  | none => exact .inl (by simpa using hfind)
  | some a =>
    obtain ⟨ha, before, after, hsplit, hbefore⟩ := List.find?_eq_some_iff_append.mp hfind
    exact .inr ⟨before, a, after, hsplit, by simpa using hbefore, by simpa using ha⟩

/-- The texts of a part that have to be visible. -/
def Part.required (part : Part) (title text : Text) : List Requirement :=
  [(title, .missingTitle part), (text, .missingText part)]

theorem requireFilled_eq_demand (part : Part) (title text : Text) :
    requireFilled part title text = demand (part.required title text) :=
  rfl

theorem requireFields_eq_demand (items : List Json) :
    requireFields items = demand (items.flatMap fun item ↦
      (Part.field (item.textAt "name")).required (item.textAt "name") (item.textAt "value")) := by
  induction items with
  | nil => rfl
  | cons item rest ih =>
    rw [requireFields, List.flatMap_cons, demand_append, ← ih]
    rfl

/-- A traversal that makes demands on each element makes all of them in order. -/
theorem mapM_eq_demand {α β : Type} {f : α → Except ContentError β} {required : α → List Requirement}
    {form : α → β} (h : ∀ a, f a = (demand (required a) >>= fun _ ↦ .ok (form a))) (l : List α) :
    l.mapM f = (demand (l.flatMap required) >>= fun _ ↦ .ok (l.map form)) := by
  induction l with
  | nil => rfl
  | cons a rest ih =>
    rw [List.mapM_cons, ih, h, List.flatMap_cons, demand_append]
    cases demand (required a) with
    | error error => rfl
    | ok => cases demand (rest.flatMap required) <;> rfl

/-! ## Before the substitution -/

/-- The texts of an embed that have to be visible, in the order in which they are looked at, if its
texts are changed like this.  A field is called by the title that it has then. -/
def Embed.required (change : Text → Text) (embed : Embed) : List Requirement :=
  Part.embed.required (change embed.title) (change (Text.trim embed.text)) ++
    embed.fields.flatMap fun field ↦
      (Part.field (change field.title)).required (change field.title) (change field.value)

/-- The JSON form that an embed has if nothing is missing. -/
def Embed.form (embed : Embed) : Json :=
  Json.filled (embed.entries (embed.fields.map fun field ↦ Json.filled field.entries))

theorem Field.payload_eq_demand (field : Field) :
    field.payload = (demand ((Part.field field.title).required field.title field.value) >>=
      fun _ ↦ .ok (Json.filled field.entries)) :=
  rfl

/-- **An embed has a JSON form if nothing is missing**, and else the error of what is missing
first. -/
theorem Embed.payload_eq_demand (embed : Embed) :
    embed.payload = (demand (embed.required id) >>= fun _ ↦ .ok embed.form) := by
  have hembed : requireFilled .embed embed.title embed.text =
      demand (Part.embed.required embed.title (Text.trim embed.text)) := by
    rw [← requireFilled_eq_demand, requireFilled, requireFilled]
    simp only [Text.isBlank_trim_iff]
  have hrequired : embed.required id =
      Part.embed.required embed.title (Text.trim embed.text) ++ embed.fields.flatMap fun field ↦
        (Part.field field.title).required field.title field.value := rfl
  rw [payload, hembed, mapM_eq_demand Field.payload_eq_demand, hrequired, demand_append]
  cases demand (Part.embed.required embed.title (Text.trim embed.text)) with
  | error error => rfl
  | ok => cases demand (embed.fields.flatMap _) <;> rfl

theorem Embed.eq_form_of_payload {embed : Embed} {value : Json} (h : embed.payload = .ok value) :
    value = embed.form := by
  rw [payload_eq_demand, bind_eq_ok_iff] at h
  obtain ⟨_, -, ⟨⟩⟩ := h
  rfl

/-! ## After the substitution -/

/-- What is read under a key of an object of what says something, once its texts are changed. -/
theorem Json.textAt_prune_mapText_filled {entries : Entries} (h : (entries.map Prod.fst).Nodup)
    {f : Text → Text} (hf : f [] = []) (key : Text) :
    ((Json.filled entries).mapText f).prune.textAt key = f ((Json.object entries).textAt key) := by
  rw [filled_eq h, textAt_prune_mapText ((List.filter_sublist.map _).nodup h) hf, textAt_filter h]

theorem Json.itemsAt_prune_mapText_filled {entries : Entries} (h : (entries.map Prod.fst).Nodup)
    (f : Text → Text) (key : Text) :
    ((Json.filled entries).mapText f).prune.itemsAt key =
      ((Json.object entries).itemsAt key).map fun item ↦ (item.mapText f).prune := by
  rw [filled_eq h, itemsAt_prune_mapText ((List.filter_sublist.map _).nodup h), itemsAt_filter h]

/-- **What rendering looks for at its end** are the texts that the JSON form had to begin with, as
they have become. -/
theorem Embed.requireRendered_form (embed : Embed) {change : Text → Text} (h : change [] = []) :
    requireRendered (embed.form.mapText change).prune = demand (embed.required change) := by
  have hkeys := embed.nodup_keys (embed.fields.map fun field ↦ Json.filled field.entries)
  have hname (field : Field) :
      ((Json.filled field.entries).mapText change).prune.textAt "name" = change field.title :=
    Json.textAt_prune_mapText_filled field.nodup_keys h "name"
  have hvalue (field : Field) :
      ((Json.filled field.entries).mapText change).prune.textAt "value" = change field.value :=
    Json.textAt_prune_mapText_filled field.nodup_keys h "value"
  have htitle : (embed.form.mapText change).prune.textAt "title" = change embed.title :=
    Json.textAt_prune_mapText_filled hkeys h "title"
  have htext : (embed.form.mapText change).prune.textAt "description" =
      change (Text.trim embed.text) :=
    Json.textAt_prune_mapText_filled hkeys h "description"
  have hitems : (embed.form.mapText change).prune.itemsAt "fields" =
      (embed.fields.map fun field ↦ Json.filled field.entries).map fun item ↦
        (item.mapText change).prune :=
    Json.itemsAt_prune_mapText_filled hkeys change "fields"
  rw [requireRendered, requireFields_eq_demand, requireFilled_eq_demand, htitle, htext, hitems,
    ← demand_append, List.flatMap_map, List.flatMap_map]
  simp only [hname, hvalue]
  rfl

/-! ## Values for placeholders -/

/-- The value of a placeholder: the caller's, or else the default. -/
def Replacement.value? (overrides : Overrides) (r : Replacement) : Option Text :=
  (overrides.get? r.token).or r.default?

theorem Replacement.resolve_of_some {overrides : Overrides} {r : Replacement} {value : Text}
    (h : r.value? overrides = some value) : r.resolve overrides = .ok (r.token, value) := by
  rw [resolve]
  rw [value?] at h
  cases hgiven : overrides.get? r.token with
  | some given =>
    rw [hgiven, Option.some_or] at h
    rw [Option.some.inj h]
  | none =>
    rw [hgiven, Option.none_or] at h
    rw [h]

theorem Replacement.resolve_of_none {overrides : Overrides} {r : Replacement}
    (h : r.value? overrides = none) :
    r.resolve overrides = .error (.missingReplacement r.token) := by
  obtain ⟨hgiven, hdefault⟩ := Option.or_eq_none_iff.mp h
  rw [resolve, hgiven, hdefault]

/-- A traversal fails with the error of the first element that has one. -/
theorem mapM_eq_error {ε α β : Type} {f : α → Except ε β} {before after : List α} {a : α} {error : ε}
    (hbefore : ∀ b ∈ before, ∃ answer, f b = .ok answer) (h : f a = .error error) :
    (before ++ a :: after).mapM f = .error error := by
  induction before with
  | nil =>
    rw [List.nil_append, List.mapM_cons, h]
    rfl
  | cons b rest ih =>
    obtain ⟨⟨answer, hb⟩, hrest⟩ := List.forall_mem_cons.mp hbefore
    rw [List.cons_append, List.mapM_cons, hb, ih hrest]
    rfl

namespace Blueprint

/-- The tokens that have a value, with their values, in the order of declaration. -/
def pairs (blueprint : Blueprint) (overrides : Overrides) : List Token.Pair :=
  blueprint.replacements.filterMap fun r ↦ (r.value? overrides).map (r.token, ·)

variable {blueprint : Blueprint} {overrides : Overrides}

theorem resolve_eq_ok (h : ∀ r ∈ blueprint.replacements, r.value? overrides ≠ none) :
    blueprint.resolve overrides = .ok (blueprint.pairs overrides) := by
  rw [resolve, pairs, mapM_eq_ok_iff]
  generalize blueprint.replacements = replacements at h
  induction replacements with
  | nil => rfl
  | cons r rest ih =>
    obtain ⟨hr, hrest⟩ := List.forall_mem_cons.mp h
    obtain ⟨value, hvalue⟩ := Option.ne_none_iff_exists'.mp hr
    rw [List.filterMap_cons, hvalue, List.map_cons, Replacement.resolve_of_some hvalue, ih hrest]
    rfl

theorem resolve_eq_error {before after : List Replacement} {r : Replacement}
    (declared : blueprint.replacements = before ++ r :: after)
    (valued : ∀ earlier ∈ before, earlier.value? overrides ≠ none)
    (unset : r.value? overrides = none) :
    blueprint.resolve overrides = .error (.missingReplacement r.token) := by
  rw [resolve, declared]
  refine mapM_eq_error (fun earlier hearlier ↦ ?_) (Replacement.resolve_of_none unset)
  obtain ⟨value, hvalue⟩ := Option.ne_none_iff_exists'.mp (valued earlier hearlier)
  exact ⟨_, Replacement.resolve_of_some hvalue⟩

/-! ## The ways in which rendering ends -/

/-- How rendering a blueprint can end, if a caller gives these values to tokens. -/
inductive Outcome (blueprint : Blueprint) (overrides : Overrides) :
    Except ContentError Json → Prop
  /-- The first placeholder without a value is missed, whatever else there is. -/
  | unset {before after : List Replacement} {r : Replacement}
      (declared : blueprint.replacements = before ++ r :: after)
      (valued : ∀ earlier ∈ before, earlier.value? overrides ≠ none)
      (unset : r.value? overrides = none) :
      Outcome blueprint overrides (.error (.missingReplacement r.token))
  /-- The embed has no JSON form, for a reason of its own. -/
  | broken {error : ContentError}
      (valued : ∀ r ∈ blueprint.replacements, r.value? overrides ≠ none)
      (failed : blueprint.embed.payload = .error error) :
      Outcome blueprint overrides (.error error)
  /-- Once the values are in their places, something is blank. -/
  | blank {base : Json} {error : ContentError}
      (valued : ∀ r ∈ blueprint.replacements, r.value? overrides ≠ none)
      (made : blueprint.embed.payload = .ok base)
      (first : FirstBlank
        (blueprint.embed.required (Token.replaceAll (blueprint.pairs overrides))) error) :
      Outcome blueprint overrides (.error error)
  | rendered {base : Json}
      (valued : ∀ r ∈ blueprint.replacements, r.value? overrides ≠ none)
      (made : blueprint.embed.payload = .ok base)
      (visible : ∀ requirement ∈
        blueprint.embed.required (Token.replaceAll (blueprint.pairs overrides)),
        ¬Text.IsBlank requirement.1) :
      Outcome blueprint overrides (.ok (base.substitute (blueprint.pairs overrides)).prune)

/-- Rendering, when all placeholders have values and the embed has a JSON form. -/
theorem render_of_made {base : Json}
    (valued : ∀ r ∈ blueprint.replacements, r.value? overrides ≠ none)
    (made : blueprint.embed.payload = .ok base) :
    blueprint.render overrides =
      (demand (blueprint.embed.required (Token.replaceAll (blueprint.pairs overrides))) >>=
        fun _ ↦ .ok (base.substitute (blueprint.pairs overrides)).prune) := by
  have hrequire := blueprint.embed.requireRendered_form
    (Token.replaceAll_nil (blueprint.pairs overrides))
  rw [← Embed.eq_form_of_payload made, ← Json.substitute] at hrequire
  rw [render, resolve_eq_ok valued, made, ← hrequire]
  rfl

theorem Outcome.render_eq {result : Except ContentError Json}
    (h : blueprint.Outcome overrides result) : blueprint.render overrides = result := by
  cases h with
  | unset declared valued unset =>
    rw [render, resolve_eq_error declared valued unset]
    rfl
  | broken valued failed =>
    rw [render, resolve_eq_ok valued, failed]
    rfl
  | blank valued made first =>
    rw [render_of_made valued made, first.demand_eq]
    rfl
  | rendered valued made visible =>
    rw [render_of_made valued made, demand_eq_ok visible]
    rfl

/-- One of the ways always applies. -/
theorem exists_outcome (blueprint : Blueprint) (overrides : Overrides) :
    ∃ result, blueprint.Outcome overrides result := by
  obtain valued | ⟨before, r, after, declared, valued, unset⟩ :=
    forall_not_or_exists_first (fun r ↦ r.value? overrides = none) blueprint.replacements
  · cases hpayload : blueprint.embed.payload with
    | error error => exact ⟨_, .broken valued hpayload⟩
    | ok base =>
      obtain visible | ⟨before, ⟨text, error⟩, after, hsplit, hbefore, hblank⟩ :=
        forall_not_or_exists_first (fun requirement ↦ Text.IsBlank requirement.1)
          (blueprint.embed.required (Token.replaceAll (blueprint.pairs overrides)))
      · exact ⟨_, .rendered valued hpayload visible⟩
      · exact ⟨_, .blank valued hpayload ⟨before, text, after, hsplit, hbefore, hblank⟩⟩
  · exact ⟨_, .unset declared valued unset⟩

/-- **How rendering ends**: the ways of `Outcome` are all there are, and no two of them apply
together with different outcomes. -/
theorem render_eq_iff {result : Except ContentError Json} :
    blueprint.render overrides = result ↔ blueprint.Outcome overrides result := by
  constructor
  · rintro rfl
    obtain ⟨result, h⟩ := exists_outcome blueprint overrides
    rwa [h.render_eq]
  · exact Outcome.render_eq

/-- A field is called by the title that it has once the values are in their places. -/
example :
    ({ embed := { title := "T".toList, text := "b".toList,
                  fields := [{ title := "Fa".toList, text := "a &".toList }] }
       replacements := [⟨"a".toList, some " ".toList⟩] } : Blueprint).render []
      = .error (.missingText (.field "F ".toList)) :=
  rfl

end Blueprint

end ChatEmbed
