import ChatEmbed.Library
import Mathlib.Data.List.Basic

/-!
# The two shelves of a library

A library keeps embeds on one shelf and blueprints on another.  It treats them alike, so what is to
be said about either is said once, of a `Shelf`, and what is to be said about both is that neither
looks at the other.

* `Shelf.ask` and `Shelf.load` are the requests about a shelf, `Shelf.cache` is what it holds, and
  `Shelf.answer` is what the compiler has to say about a file, without any store.
* `Serves` lists the ways in which a request for a file is served, and `serves_perform` says that
  there are no others.
* `Alike` is what a shelf can see of two libraries.  Requests about one shelf do not show on the other
  (`alike_perform`), and what a shelf cannot see has no part in its answers (`Alike.perform`).
-/

set_option autoImplicit false

namespace ChatEmbed

open Library (Request Answer)

/-- The files that a request brings along. -/
def Library.Request.source? : Request → Option Source
  | .changeSource source => some source
  | _ => none

/-- One of the two shelves of a library. -/
inductive Shelf
  | embeds
  | blueprints
deriving DecidableEq, Repr

namespace Shelf

/-- What is kept on the shelf. -/
abbrev Value : Shelf → Type
  | .embeds => Json
  | .blueprints => Blueprint

/-- What the files of the shelf are read as. -/
def kind : Shelf → DocumentKind
  | .embeds => .embed
  | .blueprints => .blueprint

/-- The request for what a file describes. -/
def ask : Shelf → Path → Request
  | .embeds => .compile
  | .blueprints => .blueprint

/-- The request for what has been stored under a name. -/
def load : Shelf → Text → Request
  | .embeds => .loadEmbed
  | .blueprints => .loadBlueprint

/-- The answer that hands out a value. -/
def hand : (shelf : Shelf) → shelf.Value → Answer
  | .embeds => .embed
  | .blueprints => .blueprint

/-- What the library keeps on the shelf. -/
def cache : (shelf : Shelf) → Library → Cache shelf.Value
  | .embeds, library => library.embeds
  | .blueprints, library => library.blueprints

/-- The library with something else on the shelf. -/
def restock : (shelf : Shelf) → Library → Cache shelf.Value → Library
  | .embeds, library, cache => { library with embeds := cache }
  | .blueprints, library, cache => { library with blueprints := cache }

/-- What the compiler makes of a file. -/
def compute : (shelf : Shelf) → Setting → Path → Run CompileError shelf.Value
  | .embeds, setting, path => setting.compileFile path
  | .blueprints, setting, path => (setting.parseFile .blueprint path).mapError .parse

/-- What the compiler makes of a file, as the answer of a library. -/
def answer (shelf : Shelf) (setting : Setting) (path : Path) : Run LibraryError Answer := do
  return shelf.hand (← (shelf.compute setting path).mapError .compile)

/-- The file that a request asks the shelf for. -/
def asked? : Shelf → Request → Option Path
  | .embeds, .compile path => some path
  | .blueprints, .blueprint path => some path
  | _, _ => none

/-- Whether a request is not about the other shelf. -/
def concerns : Shelf → Request → Bool
  | .embeds, .blueprint _ | .embeds, .loadBlueprint _ => false
  | .blueprints, .compile _ | .blueprints, .loadEmbed _ => false
  | _, _ => true

variable (shelf : Shelf)

theorem asked?_eq_some_iff {request : Request} {path : Path} :
    shelf.asked? request = some path ↔ request = shelf.ask path := by
  cases shelf <;> cases request <;> simp [asked?, ask]

theorem concerns_ask_iff {other : Shelf} {path : Path} :
    shelf.concerns (other.ask path) = true ↔ other = shelf := by
  cases shelf <;> cases other <;> simp [concerns, ask]

theorem concerns_load_iff {other : Shelf} {name : Text} :
    shelf.concerns (other.load name) = true ↔ other = shelf := by
  cases shelf <;> cases other <;> simp [concerns, load]

@[simp] theorem cache_restock (library : Library) (cache : Cache shelf.Value) :
    shelf.cache (shelf.restock library cache) = cache := by
  cases shelf <;> rfl

@[simp] theorem setting_restock (library : Library) (cache : Cache shelf.Value) :
    (shelf.restock library cache).setting = library.setting := by
  cases shelf <;> rfl

@[simp] theorem caching_restock (library : Library) (cache : Cache shelf.Value) :
    (shelf.restock library cache).caching = library.caching := by
  cases shelf <;> rfl

theorem cache_restock_of_ne {other : Shelf} (h : other ≠ shelf) (library : Library)
    (cache : Cache shelf.Value) : other.cache (shelf.restock library cache) = other.cache library := by
  cases shelf with
  | embeds =>
    cases other with
    | embeds => exact absurd rfl h
    | blueprints => rfl
  | blueprints =>
    cases other with
    | embeds => rfl
    | blueprints => exact absurd rfl h

end Shelf

/-! ## What a store holds -/

namespace Cache

variable {α : Type} (cache : Cache α) (path : Path) (symbol : Option Text) (value : α)

/-- What is stored last under a path is found under all its spellings. -/
theorem findPath?_store (asked : Path) :
    (cache.store path symbol value).findPath? asked =
      if Path.normalize asked = Path.normalize path then some value else cache.findPath? asked := by
  rw [findPath?, store.eq_def, List.lookup_cons]
  split
  · next h => rw [if_pos (beq_iff_eq.mp h)]
  · next h => rw [if_neg (by simpa using h), findPath?]

/-- What is stored last under a name is found there. -/
theorem findName?_store (name : Text) :
    (cache.store path symbol value).findName? name =
      if symbol = some name then some value else cache.findName? name := by
  rw [findName?, store.eq_def]
  cases symbol with
  | none => rfl
  | some stored =>
    rw [List.lookup_cons]
    split
    · next h => rw [if_pos (by rw [beq_iff_eq.mp h])]
    · next h =>
      have hne : some stored ≠ some name := fun hsame ↦ by simp [Option.some.inj hsame] at h
      rw [if_neg hne, findName?]

/-- Only the normal form of a path matters for what is found under it. -/
theorem findPath?_congr {path other : Path} (h : Path.normalize path = Path.normalize other) :
    cache.findPath? path = cache.findPath? other := by
  rw [findPath?, findPath?, h]

end Cache

/-! ## How a file is served -/

/-- How a request for a file is served: the library after it, and the answer. -/
inductive Serves (shelf : Shelf) (library : Library) (path : Path) :
    Library → Run LibraryError Answer → Prop
  /-- It is on the shelf.  No file is read. -/
  | stored {value : shelf.Value} (caching : library.caching = true)
      (found : (shelf.cache library).findPath? path = some value) :
      Serves shelf library path library (pure (shelf.hand value))
  /-- The compiler answers, and nothing is stored. -/
  | uncached (uncaching : library.caching = false) :
      Serves shelf library path library (shelf.answer library.setting path)
  /-- The compiler fails, and nothing is stored. -/
  | failed {error : CompileError} (caching : library.caching = true)
      (fresh : (shelf.cache library).findPath? path = none)
      (fails : (shelf.compute library.setting path).result = .error error) :
      Serves shelf library path library (shelf.answer library.setting path)
  /-- The compiler answers, and its answer is stored under the path and under the name of the
  document. -/
  | computed {document : Blueprint} {value : shelf.Value} (caching : library.caching = true)
      (fresh : (shelf.cache library).findPath? path = none)
      (parsed : (library.setting.parseFile shelf.kind path).result = .ok document)
      (yields : (shelf.compute library.setting path).result = .ok value) :
      Serves shelf library path
        (shelf.restock library ((shelf.cache library).store path document.name value))
        (shelf.answer library.setting path)

/-- The compiler makes the same of a file whether or not the name of the document is asked for as
well. -/
theorem computeEmbed_cases (setting : Setting) (path : Path) :
    (∃ error, (Library.computeEmbed setting path).result = .error error ∧
      setting.compileFile path = ⟨(Library.computeEmbed setting path).events, .error error⟩) ∨
    ∃ document value, (Library.computeEmbed setting path).result = .ok (document.name, value) ∧
      (setting.parseFile .embed path).result = .ok document ∧
      setting.compileFile path = ⟨(Library.computeEmbed setting path).events, .ok value⟩ := by
  rw [Library.computeEmbed, Setting.compileFile, Setting.finish]
  obtain ⟨events, error | document⟩ := setting.parseFile .embed path
  · exact .inl ⟨.parse error, rfl, rfl⟩
  · simp only [Run.mapError, Except.mapError, Run.bind_ok, Run.ofExcept]
    cases document.embed.payload with
    | error error => exact .inl ⟨.content error, rfl, rfl⟩
    | ok value => exact .inr ⟨document, value, rfl, rfl, rfl⟩

theorem serves_compile (library : Library) (path : Path) :
    Serves .embeds library path (library.perform (.compile path)).1
      (library.perform (.compile path)).2 := by
  rw [Library.perform, Library.compile]
  by_cases hcaching : library.caching = true
  · rw [if_pos hcaching]
    cases hfound : library.embeds.findPath? path with
    | some value => exact .stored hcaching hfound
    | none =>
      rcases computeEmbed_cases library.setting path with
        ⟨error, hresult, hcompute⟩ | ⟨document, value, hresult, hparsed, hcompute⟩
      · have hserves := @Serves.failed .embeds library path error hcaching hfound
          (congrArg Run.result hcompute)
        rw [Shelf.answer, Shelf.compute, hcompute] at hserves
        simp only [hresult]
        exact hserves
      · have hserves := @Serves.computed .embeds library path document value hcaching hfound
          hparsed (congrArg Run.result hcompute)
        rw [Shelf.answer, Shelf.compute, hcompute] at hserves
        simp only [hresult]
        exact hserves
  · rw [if_neg hcaching]
    exact .uncached (Bool.eq_false_iff.mpr hcaching)

theorem serves_blueprint (library : Library) (path : Path) :
    Serves .blueprints library path (library.perform (.blueprint path)).1
      (library.perform (.blueprint path)).2 := by
  rw [Library.perform, Library.blueprint]
  by_cases hcaching : library.caching = true
  · rw [if_pos hcaching]
    cases hfound : library.blueprints.findPath? path with
    | some value => exact .stored hcaching hfound
    | none =>
      cases hparsed : (library.setting.parseFile .blueprint path).result with
      | error error =>
        have hresult : (Shelf.blueprints.compute library.setting path).result =
            .error (.parse error) := by rw [Shelf.compute, Run.mapError, hparsed]; rfl
        have hserves := @Serves.failed .blueprints library path _ hcaching hfound hresult
        rw [Shelf.compute] at hresult
        simp only [hresult]
        exact hserves
      | ok document =>
        have hresult : (Shelf.blueprints.compute library.setting path).result =
            .ok document := by rw [Shelf.compute, Run.mapError, hparsed]; rfl
        have hserves := @Serves.computed .blueprints library path _ _ hcaching hfound hparsed
          hresult
        rw [Shelf.compute] at hresult
        simp only [hresult]
        exact hserves
  · rw [if_neg hcaching]
    exact .uncached (Bool.eq_false_iff.mpr hcaching)

/-- **A request for a file is served in one of the ways of `Serves`.** -/
theorem serves_perform (shelf : Shelf) (library : Library) (path : Path) :
    Serves shelf library path (library.perform (shelf.ask path)).1
      (library.perform (shelf.ask path)).2 := by
  cases shelf with
  | embeds => exact serves_compile library path
  | blueprints => exact serves_blueprint library path

/-! ## What a request does to a library -/

/-- Every request is about a file or a name of some shelf, or it is one of the two that are about the
library as a whole. -/
theorem Library.Request.shelf_cases {motive : Request → Prop}
    (ask : ∀ (shelf : Shelf) path, motive (shelf.ask path))
    (load : ∀ (shelf : Shelf) name, motive (shelf.load name))
    (disableCaching : motive .disableCaching)
    (changeSource : ∀ source, motive (.changeSource source)) (request : Request) :
    motive request := by
  cases request with
  | compile path => exact ask .embeds path
  | blueprint path => exact ask .blueprints path
  | loadEmbed name => exact load .embeds name
  | loadBlueprint name => exact load .blueprints name
  | disableCaching => exact disableCaching
  | changeSource source => exact changeSource source

section

variable {shelf : Shelf} {library : Library}

/-- A name is looked up among the names that have been stored, and nothing else happens. -/
theorem perform_load (shelf : Shelf) (library : Library) (name : Text) :
    library.perform (shelf.load name) =
      (library, ((shelf.cache library).findName? name).elim (Run.fail (.notLoaded name))
        fun value ↦ pure (shelf.hand value)) := by
  cases shelf with
  | embeds =>
    simp only [Shelf.load, Library.perform, Library.loadEmbed, Shelf.cache]
    cases library.embeds.findName? name <;> rfl
  | blueprints =>
    simp only [Shelf.load, Library.perform, Library.loadBlueprint, Shelf.cache]
    cases library.blueprints.findName? name <;> rfl

/-- Serving a file changes nothing but what is on its shelf. -/
theorem Serves.kept {path : Path} {next : Library} {run : Run LibraryError Answer}
    (h : Serves shelf library path next run) :
    next.setting = library.setting ∧ next.caching = library.caching ∧
      ∀ other, other ≠ shelf → Shelf.cache other next = Shelf.cache other library := by
  cases h with
  | computed caching fresh parsed yields =>
    exact ⟨shelf.setting_restock _ _, shelf.caching_restock _ _,
      fun other hother ↦ shelf.cache_restock_of_ne hother _ _⟩
  | _ => exact ⟨rfl, rfl, fun _ _ ↦ rfl⟩

/-- Only a change of the files changes what a parse can see. -/
theorem setting_perform (library : Library) (request : Request) :
    (library.perform request).1.setting = { library.setting with
      source := request.source?.getD library.setting.source } := by
  cases request using Library.Request.shelf_cases with
  | ask shelf path =>
    rw [(serves_perform shelf library path).kept.1]
    cases shelf <;> rfl
  | load shelf name =>
    rw [perform_load]
    cases shelf <;> rfl
  | disableCaching => rfl
  | changeSource source => rfl

/-- Only one request can turn the store off. -/
theorem caching_perform (library : Library) {request : Request} (h : request ≠ .disableCaching) :
    (library.perform request).1.caching = library.caching := by
  cases request using Library.Request.shelf_cases with
  | ask shelf path => exact (serves_perform shelf library path).kept.2.1
  | load shelf name => rw [perform_load]
  | disableCaching => exact absurd rfl h
  | changeSource source => rfl

/-- Only a request for a file of the shelf can change what is on it. -/
theorem cache_perform_of_asked?_eq_none (library : Library) {request : Request}
    (h : shelf.asked? request = none) :
    shelf.cache (library.perform request).1 = shelf.cache library := by
  cases request using Library.Request.shelf_cases with
  | ask other path =>
    refine (serves_perform other library path).kept.2.2 shelf fun hsame ↦ ?_
    rw [hsame, other.asked?_eq_some_iff.mpr rfl] at h
    cases h
  | load other name => rw [perform_load]
  | disableCaching => cases shelf <;> rfl
  | changeSource source => cases shelf <;> rfl

end

/-! ## What a shelf can see of a library -/

/-- The shelf sees no difference between the libraries. -/
structure Alike (shelf : Shelf) (first second : Library) : Prop where
  setting : first.setting = second.setting
  caching : first.caching = second.caching
  cache : shelf.cache first = shelf.cache second

section

variable {shelf : Shelf} {first second third : Library}

theorem Alike.trans (h : Alike shelf first second) (h' : Alike shelf second third) :
    Alike shelf first third where
  setting := h.setting.trans h'.setting
  caching := h.caching.trans h'.caching
  cache := h.cache.trans h'.cache

/-- **Requests about one shelf do not show on the other.** -/
theorem alike_perform (library : Library) {request : Request}
    (h : shelf.concerns request = false) : Alike shelf (library.perform request).1 library := by
  cases request using Library.Request.shelf_cases with
  | ask other path =>
    have hother : shelf ≠ other := fun hsame ↦ by
      rw [shelf.concerns_ask_iff.mpr hsame.symm] at h
      cases h
    obtain ⟨hsetting, hcaching, hcache⟩ := (serves_perform other library path).kept
    exact ⟨hsetting, hcaching, hcache shelf hother⟩
  | load other name =>
    rw [perform_load]
    exact ⟨rfl, rfl, rfl⟩
  | disableCaching => cases shelf <;> cases h
  | changeSource source => cases shelf <;> cases h

/-- How a file is served depends on nothing but what the shelf sees. -/
theorem Serves.congr (h : Alike shelf first second) {path : Path} {next next' : Library}
    {run run' : Run LibraryError Answer} (hfirst : Serves shelf first path next run)
    (hsecond : Serves shelf second path next' run') :
    shelf.cache next = shelf.cache next' ∧ run = run' := by
  obtain ⟨hsetting, hcaching, hcache⟩ := h
  -- the shelf sees enough to tell which of the ways applies, and no two of them do
  cases hfirst <;> cases hsecond <;> simp_all

/-- **What a shelf cannot see has no part in the answers about it**, nor in what it can see
afterwards. -/
theorem Alike.perform (h : Alike shelf first second) {request : Request}
    (hconcerns : shelf.concerns request = true) :
    Alike shelf (first.perform request).1 (second.perform request).1 ∧
      (first.perform request).2 = (second.perform request).2 := by
  have hsetting : (first.perform request).1.setting = (second.perform request).1.setting := by
    rw [setting_perform, setting_perform, h.setting]
  cases request using Library.Request.shelf_cases with
  | ask other path =>
    obtain rfl := shelf.concerns_ask_iff.mp hconcerns
    have hfirst := serves_perform other first path
    have hsecond := serves_perform other second path
    obtain ⟨hcache, hanswer⟩ := hfirst.congr h hsecond
    exact ⟨⟨hsetting, hfirst.kept.2.1.trans (h.caching.trans hsecond.kept.2.1.symm), hcache⟩,
      hanswer⟩
  | load other name =>
    obtain rfl := shelf.concerns_load_iff.mp hconcerns
    rw [perform_load, perform_load, h.cache]
    exact ⟨h, rfl⟩
  | disableCaching => exact ⟨⟨hsetting, rfl, by cases shelf <;> exact h.cache⟩, rfl⟩
  | changeSource source =>
    exact ⟨⟨hsetting, h.caching, by cases shelf <;> exact h.cache⟩, rfl⟩

end

end ChatEmbed
