import ChatEmbed.Proofs.History
import ChatEmbed.Proofs.Lines

/-!
# The names of documents

A document can give itself a name, change it, and give it up again; what counts is the name it ends
with.  A library that has computed a document stores it under that name too, so that of several
documents with one name the one that was computed last is found.

* `finalName?` is the name that the lines of a document end with, and `name_of_parseFile` says that
  this is the name the parser finds.
* `Shelf.lastNamed?` is what a history has to offer for a name, `findName?_after` says that this is
  what is stored under it, and `Library.latest_named` what a request for it is answered with.
-/

set_option autoImplicit false

namespace ChatEmbed

open Library (Request Answer)

/-! ## The name that a document ends with -/

/-- The name that a line gives to its document.  An empty one takes the name away. -/
def Line.symbol? : Line → Option Text
  | .command name argument => if name = "name".toList then some (Text.trim argument) else none
  | _ => none

/-- What the document is called once it has been given a name. -/
def nameFrom (symbol : Text) : Option Text := if symbol = [] then none else some symbol

/-- The name that the lines of a document end with. -/
def finalName? (lines : List Text) : Option Text :=
  (lines.filterMap fun line ↦ (Line.ofSource line).symbol?).getLast?.bind nameFrom

theorem finalName?_concat (lines : List Text) (line : Text) :
    finalName? (lines ++ [line]) =
      ((Line.ofSource line).symbol?.map nameFrom).getD (finalName? lines) := by
  cases hsymbol : (Line.ofSource line).symbol? <;>
    simp [finalName?, List.filterMap_append, hsymbol]

/-- No document is called nothing. -/
theorem finalName?_ne_some_nil (lines : List Text) : finalName? lines ≠ some [] := by
  intro h
  obtain ⟨symbol, -, hname⟩ := Option.bind_eq_some_iff.mp h
  rw [nameFrom] at hname
  split at hname
  · cases hname
  · next hsymbol => exact hsymbol (Option.some.inj hname)

/-- The name that an edit gives to the document, which may be none. -/
def Edit.name? : Edit → Option (Option Text)
  | .name symbol => some symbol
  | _ => none

theorem name_apply (draft : Draft) (edit : Edit) :
    (draft.apply edit).blueprint.name = edit.name?.getD draft.blueprint.name := by
  cases edit with
  | write text =>
    obtain ⟨blueprint, target, afterBlank⟩ := draft
    cases target <;> rfl
  | _ => rfl

section

variable {load : Text → Run ParseError (Option Template)} {kind : DocumentKind} {now : Text}

/-- The edit of a line gives the name that the line gives. -/
theorem Makes.name?_eq {line : Text} {edit : Edit} (h : Makes load kind now line edit) :
    edit.name? = (Line.ofSource line).symbol?.map nameFrom := by
  cases htemplate : (Line.ofSource line).template? with
  | none =>
    have hasks := (makes_iff_of_template?_eq_none htemplate).mp h
    generalize Line.ofSource line = l at hasks
    cases hasks with
    | @set name argument key known =>
      have hname : name ≠ "name".toList := by
        rintro rfl
        cases known
      rw [Line.symbol?, if_neg hname]
      rfl
    | _ => rfl
  | some name =>
    obtain ⟨template, -, rfl⟩ := (makes_iff_of_template?_eq_some htemplate).mp h
    obtain ⟨argument, hline, -⟩ := Line.template?_eq_some_iff.mp htemplate
    rw [hline]
    rfl

theorem name_of_documentOfLines {lines : List Text} {document : Blueprint}
    (h : (documentOfLines load kind now lines).result = .ok document) :
    document.name = finalName? lines := by
  obtain ⟨edits, hedits, rfl⟩ := documentOfLines_eq_ok_iff.mp h
  refine ofEdits_induction (motive := fun lines draft ↦
    draft.blueprint.name = finalName? lines) rfl ?_ hedits
  intro lines draft line edit ih hmakes
  rw [name_apply, hmakes.name?_eq, finalName?_concat, ih]

end

namespace Setting

/-- The name that the document of a file ends with. -/
def nameOf? (setting : Setting) (path : Path) : Option Text :=
  match setting.source.readLines path with
  | .ok lines => finalName? lines
  | .error _ => none

/-- **The name of a document is the one that its lines end with.** -/
theorem name_of_parseFile {setting : Setting} {kind : DocumentKind} {path : Path}
    {document : Blueprint} (h : (setting.parseFile kind path).result = .ok document) :
    document.name = setting.nameOf? path := by
  rw [parseFile, Run.result_bind_eq_ok_iff] at h
  obtain ⟨_, -, h⟩ := h
  rw [nameOf?]
  cases hread : setting.source.readLines path with
  | error failure => rw [hread] at h; cases h
  | ok lines =>
    rw [hread] at h
    exact name_of_documentOfLines h

theorem nameOf?_ne_some_nil (setting : Setting) (path : Path) : setting.nameOf? path ≠ some [] := by
  rw [nameOf?]
  split
  · exact finalName?_ne_some_nil _
  · nofun

end Setting

/-! ## What is stored under a name -/

theorem Run.reads_mapError {ε ε' α : Type} (f : ε → ε') (run : Run ε α) :
    (run.mapError f).reads = run.reads := rfl

theorem Run.reads_bind_ne_nil {ε α β : Type} {first : Run ε α} {next : α → Run ε β}
    (h : first.reads ≠ []) : (first >>= next).reads ≠ [] := by
  obtain ⟨events, error | value⟩ := first
  · exact h
  · rw [bind_ok, reads, List.filterMap_append]
    exact List.append_ne_nil_of_left_ne_nil h _

/-- To compute an answer, its file has to be read. -/
theorem Shelf.reads_answer_ne_nil (shelf : Shelf) (setting : Setting) (path : Path) :
    (shelf.answer setting path).reads ≠ [] := by
  have hparse : ∀ kind, (setting.parseFile kind path).reads ≠ [] :=
    fun kind ↦ List.cons_ne_nil path _
  refine Run.reads_bind_ne_nil ?_
  cases shelf with
  | embeds =>
    rw [Run.reads_mapError, compute, Setting.compileFile, Setting.finish]
    exact Run.reads_bind_ne_nil (hparse .embed)
  | blueprints => exact hparse .blueprint

/-- What an occasion has to offer for a name: the answer, if a file was asked for whose document ends
with that name, and if the answer was computed, which cannot be done without reading the file. -/
def Occasion.named? (shelf : Shelf) (name : Text) (occasion : Occasion) : Option Answer :=
  match shelf.asked? occasion.request with
  | some path =>
    if occasion.answer.reads ≠ [] ∧ occasion.setting.nameOf? path = some name then
      occasion.answer.result.toOption
    else none
  | none => none

/-- What the last successful computation of a document with a name was answered with. -/
def Shelf.lastNamed? (shelf : Shelf) (name : Text) (history : List Occasion) : Option Answer :=
  history.reverse.findSome? (Occasion.named? shelf name)

section

variable {shelf : Shelf} {library next : Library} {path : Path} {run : Run LibraryError Answer}

/-- What is stored under a name once a file has been served: what the file was answered with, if that
was computed and the document has the name, and otherwise what there was. -/
theorem Serves.findName?_eq (hcaching : library.caching = true)
    (h : Serves shelf library path next run) (name : Text) :
    ((shelf.cache next).findName? name).map shelf.hand =
      (if run.reads ≠ [] ∧ library.setting.nameOf? path = some name then run.result.toOption
        else none).or (((shelf.cache library).findName? name).map shelf.hand) := by
  have hreads := shelf.reads_answer_ne_nil library.setting path
  cases h with
  | stored _ found => simp [Run.reads]
  | uncached uncaching => rw [hcaching] at uncaching; cases uncaching
  | failed _ fresh fails =>
    rw [shelf.toOption_answer, fails]
    simp [Except.toOption]
  | computed _ fresh parsed yields =>
    rw [shelf.cache_restock, Cache.findName?_store, shelf.toOption_answer, yields,
      Setting.name_of_parseFile parsed]
    by_cases hname : library.setting.nameOf? path = some name
    · rw [if_pos hname, if_pos ⟨hreads, hname⟩]
      rfl
    · rw [if_neg hname, if_neg (fun hboth ↦ hname hboth.2), Option.none_or]

/-- **One request more** takes over a name if it computes a document that has it. -/
theorem findName?_perform (hcaching : library.caching = true) (request : Request) (name : Text) :
    ((shelf.cache (library.perform request).1).findName? name).map shelf.hand =
      ((library.occasion request).named? shelf name).or
        (((shelf.cache library).findName? name).map shelf.hand) := by
  cases hasked : shelf.asked? request with
  | none =>
    rw [cache_perform_of_asked?_eq_none library hasked, Occasion.named?, Library.occasion, hasked,
      Option.none_or]
  | some path =>
    obtain rfl := shelf.asked?_eq_some_iff.mp hasked
    rw [Occasion.named?, Library.occasion, hasked]
    exact (serves_perform shelf library path).findName?_eq hcaching name

/-- Serving a file keeps what is stored under paths. -/
theorem Serves.findPath?_mono (h : Serves shelf library path next run) {asked : Path}
    {value : shelf.Value} (found : (shelf.cache library).findPath? asked = some value) :
    (shelf.cache next).findPath? asked = some value := by
  cases h with
  | computed caching fresh parsed yields =>
    have hother : Path.normalize asked ≠ Path.normalize path := fun hsame ↦ by
      rw [(shelf.cache library).findPath?_congr hsame, fresh] at found
      cases found
    rw [shelf.cache_restock, Cache.findPath?_store, if_neg hother, found]
  | _ => exact found

/-- What is stored under a name once a file has been served was so before, or is now stored under the
path of the file. -/
theorem Serves.findName?_cases (h : Serves shelf library path next run) {name : Text}
    {value : shelf.Value} (found : (shelf.cache next).findName? name = some value) :
    (shelf.cache library).findName? name = some value ∨
      (shelf.cache next).findPath? path = some value := by
  cases h with
  | computed caching fresh parsed yields =>
    rw [shelf.cache_restock, Cache.findName?_store] at found
    split at found
    · rw [shelf.cache_restock, Cache.findPath?_store, if_pos rfl]
      exact .inr found
    · exact .inl found
  | _ => exact .inl found

/-- **What is stored under a name is stored under a path as well.** -/
theorem exists_findPath?_of_findName? {setting : Setting} {past : List Request} {name : Text}
    {value : shelf.Value}
    (found : (shelf.cache ((Library.empty setting).after past)).findName? name = some value) :
    ∃ path, (shelf.cache ((Library.empty setting).after past)).findPath? path = some value := by
  induction past using List.reverseRecOn with
  | nil => cases shelf <;> cases found
  | append_singleton past request ih =>
    rw [Library.after_concat] at found ⊢
    cases hasked : shelf.asked? request with
    | none =>
      rw [cache_perform_of_asked?_eq_none _ hasked] at found ⊢
      exact ih found
    | some path =>
      obtain rfl := shelf.asked?_eq_some_iff.mp hasked
      have hserves := serves_perform shelf ((Library.empty setting).after past) path
      rcases hserves.findName?_cases found with hold | hnew
      · obtain ⟨other, hother⟩ := ih hold
        exact ⟨other, hserves.findPath?_mono hother⟩
      · exact ⟨path, hnew⟩

end

/-- **What is stored under a name** is what the last computation of a document with that name was
answered with. -/
theorem findName?_after {setting : Setting} {past : List Request}
    (h : Request.disableCaching ∉ past) (shelf : Shelf) (name : Text) :
    ((shelf.cache ((Library.empty setting).after past)).findName? name).map shelf.hand =
      shelf.lastNamed? name ((Library.empty setting).history past) := by
  induction past using List.reverseRecOn with
  | nil => cases shelf <;> rfl
  | append_singleton past request ih =>
    rw [List.mem_append, not_or] at h
    rw [Library.after_concat, Library.history_concat, findName?_perform (Library.caching_after h.1),
      ih h.1, Shelf.lastNamed?, Shelf.lastNamed?, List.reverse_append, List.findSome?_append,
      List.reverse_singleton, List.findSome?_singleton]

/-- Nothing is ever offered for the empty name. -/
theorem Shelf.lastNamed?_nil (shelf : Shelf) (history : List Occasion) :
    shelf.lastNamed? [] history = none := by
  refine List.findSome?_eq_none_iff.mpr fun occasion _ ↦ ?_
  rw [Occasion.named?]
  split
  · exact if_neg fun hboth ↦ occasion.setting.nameOf?_ne_some_nil _ hboth.2
  · rfl

namespace Library

theorem answerAfter_load {setting : Setting} {past : List Request}
    (h : Request.disableCaching ∉ past) (shelf : Shelf) (name : Text) :
    (empty setting).answerAfter past (shelf.load name) =
      match shelf.lastNamed? name ((empty setting).history past) with
      | some answer => ⟨[], .ok answer⟩
      | none => ⟨[], .error (.notLoaded name)⟩ := by
  rw [answerAfter, perform_load, ← findName?_after h]
  cases (shelf.cache ((empty setting).after past)).findName? name <;> rfl

/-- **What is answered for a name is answered for some path as well.** -/
theorem exists_ask_of_load {setting : Setting} {past : List Request}
    (h : Request.disableCaching ∉ past) {shelf : Shelf} {name : Text} {answer : Answer}
    (hload : ((empty setting).answerAfter past (shelf.load name)).result = .ok answer) :
    ∃ path, (empty setting).answerAfter past (shelf.ask path) = ⟨[], .ok answer⟩ := by
  rw [answerAfter, perform_load] at hload
  cases hfound : (shelf.cache ((empty setting).after past)).findName? name with
  | none => rw [hfound] at hload; cases hload
  | some value =>
    rw [hfound] at hload
    cases hload
    obtain ⟨path, hpath⟩ := exists_findPath?_of_findName? hfound
    refine ⟨path, ?_⟩
    rw [answerAfter_ask h, hpath]
    rfl

end Library

/-- **A name stands for the document that was computed last.**  Let the store not have been turned
off.  A request for a name is answered, without anything being read, as the last successful
computation of a document that ends with that name was, and if there was none with the error that
nothing is loaded under it.  What is found under a name can be had under some path as well, still
without reading anything, and nothing is ever found under the empty name. -/
theorem Library.latest_named {setting : Setting} {past : List Request}
    (h : Request.disableCaching ∉ past) (shelf : Shelf) :
    (∀ name, (empty setting).answerAfter past (shelf.load name) =
      match shelf.lastNamed? name ((empty setting).history past) with
      | some answer => ⟨[], .ok answer⟩
      | none => ⟨[], .error (.notLoaded name)⟩) ∧
    (∀ name answer, ((empty setting).answerAfter past (shelf.load name)).result = .ok answer →
      ∃ path, (empty setting).answerAfter past (shelf.ask path) = ⟨[], .ok answer⟩) ∧
    (empty setting).answerAfter past (shelf.load []) = ⟨[], .error (.notLoaded [])⟩ := by
  refine ⟨answerAfter_load h shelf, fun name answer ↦ exists_ask_of_load h, ?_⟩
  rw [answerAfter_load h, shelf.lastNamed?_nil]

/-- Documents that want to be called `n`: two of them are, one takes its name back in the end, and one
has no text. -/
def namesakes : Setting where
  source := MemoryFiles.source ⟨[("a.dem", "@name n\n# A\nx".toList),
    ("b.dem", "@name m\n@name n\n# B\ny".toList), ("c.dem", "@name n\n@name\n# C\nz".toList),
    ("d.dem", "@name n\n# D".toList)]⟩

/-- All of them are asked for, and the first one again. -/
def rollCall : List Request :=
  [.compile "a.dem", .compile "b.dem", .compile "c.dem", .compile "d.dem", .compile "./a.dem"]

/-- The second document has the name: the third and the fourth do not take it, and the first one was
not computed again. -/
theorem Library.latest_named_rollCall :
    Request.disableCaching ∉ rollCall ∧
    (empty namesakes).answerAfter rollCall (.loadEmbed "n") =
      ⟨[], .ok (.embed (.object [("title", .text "B".toList),
        ("description", .text "y".toList)]))⟩ ∧
    (empty namesakes).answerAfter rollCall (.loadEmbed "m") = ⟨[], .error (.notLoaded "m")⟩ := by
  have hstore : Request.disableCaching ∉ rollCall := by simp [rollCall]
  have hanswer := (@latest_named namesakes _ hstore .embeds).1
  have hlast : Shelf.embeds.lastNamed? "n" ((empty namesakes).history rollCall) =
      some (.embed (.object [("title", .text "B".toList),
        ("description", .text "y".toList)])) := by
    rfl
  have hnone : Shelf.embeds.lastNamed? "m" ((empty namesakes).history rollCall) = none := by
    rfl
  have hn := hanswer "n"
  have hm := hanswer "m"
  rw [hlast] at hn
  rw [hnone] at hm
  exact ⟨hstore, hn, hm⟩

end ChatEmbed
