import ChatEmbed.Proofs.Shelves
import Mathlib.Data.List.Induction

/-!
# A library and its history

What a library holds is the outcome of all that it has been asked, and of what the files were like
each time.  A `history` has one `Occasion` for each request, and what the library will say next can be
read off it.

* `Library.after` is the library after some requests, `Library.answerAfter` what it then answers to
  one more, and `Setting.after` is what a parse can see by then.
* `findPath?_after` says what is on a shelf: for every path, what the first successful request for it
  was answered with.
* `Library.snapshot` is the law of a library with a store.  `Library.without_store` is what becomes of
  it when the store is turned off: nothing is stored any more, but the names stay as they were.
-/

set_option autoImplicit false

namespace ChatEmbed

open Library (Request Answer)

/-- A request that was made, what a parse could see at the time, and how it was answered. -/
structure Occasion where
  setting : Setting
  request : Request
  answer : Run LibraryError Answer

namespace Library

/-- The library that has stored nothing yet. -/
def empty (setting : Setting) : Library := { setting }

/-- The occasion of a request. -/
def occasion (library : Library) (request : Request) : Occasion where
  setting := library.setting
  request := request
  answer := (library.perform request).2

/-- The library after some requests. -/
def after (library : Library) (requests : List Request) : Library :=
  (library.performAll requests).1

/-- The answer to a request after others. -/
def answerAfter (library : Library) (past : List Request) (request : Request) :
    Run LibraryError Answer :=
  ((library.after past).perform request).2

/-- The occasions of some requests, in order. -/
def history : Library → List Request → List Occasion
  | _, [] => []
  | library, request :: rest => library.occasion request :: (library.perform request).1.history rest

/-- The answers of a history are those that the library gives. -/
theorem map_answer_history (library : Library) (requests : List Request) :
    (library.history requests).map Occasion.answer = (library.performAll requests).2 := by
  induction requests generalizing library with
  | nil => rfl
  | cons request rest ih => exact congrArg _ (ih _)

theorem after_append (library : Library) (past rest : List Request) :
    library.after (past ++ rest) = (library.after past).after rest := by
  induction past generalizing library with
  | nil => rfl
  | cons request past ih => exact ih _

theorem after_concat (library : Library) (past : List Request) (request : Request) :
    library.after (past ++ [request]) = ((library.after past).perform request).1 :=
  library.after_append past [request]

theorem history_concat (library : Library) (past : List Request) (request : Request) :
    library.history (past ++ [request]) =
      library.history past ++ [(library.after past).occasion request] := by
  induction past generalizing library with
  | nil => rfl
  | cons first past ih => exact congrArg _ (ih _)

end Library

/-- What a parse can see after some requests: the files that the last change brought. -/
def Setting.after (setting : Setting) (requests : List Request) : Setting :=
  { setting with source := (requests.filterMap Request.source?).getLast?.getD setting.source }

namespace Library

/-- What the library works on after some requests. -/
theorem setting_after (library : Library) (requests : List Request) :
    (library.after requests).setting = library.setting.after requests := by
  induction requests using List.reverseRecOn with
  | nil => rfl
  | append_singleton past request ih =>
    rw [after_concat, setting_perform, ih, Setting.after, Setting.after, List.filterMap_append]
    cases hsource : request.source? with
    | none => rw [List.filterMap_cons_none hsource, List.filterMap_nil, List.append_nil]; rfl
    | some source => rw [List.filterMap_cons_some hsource, List.filterMap_nil,
        List.getLast?_concat]; rfl

/-- A library that has not been told otherwise has a store. -/
theorem caching_after {setting : Setting} {past : List Request}
    (h : Request.disableCaching ∉ past) : ((empty setting).after past).caching = true := by
  induction past using List.reverseRecOn with
  | nil => rfl
  | append_singleton past request ih =>
    rw [List.mem_append, not_or, List.mem_singleton] at h
    rw [after_concat, caching_perform _ (Ne.symm h.2), ih h.1]

end Library

/-! ## What is stored under a path -/

/-- What an occasion has to offer for a path: the answer, if a file was asked for by some spelling of
the path, with success. -/
def Occasion.served? (shelf : Shelf) (path : Path) (occasion : Occasion) : Option Answer :=
  match shelf.asked? occasion.request with
  | some spelling =>
    if Path.normalize spelling = Path.normalize path then occasion.answer.result.toOption else none
  | none => none

/-- What the first successful request for a path was answered with. -/
def Shelf.firstServed? (shelf : Shelf) (path : Path) (history : List Occasion) : Option Answer :=
  history.findSome? (Occasion.served? shelf path)

/-- The answer of the compiler, with its parts in view. -/
theorem Shelf.answer_eq (shelf : Shelf) (setting : Setting) (path : Path) :
    shelf.answer setting path = ⟨(shelf.compute setting path).events,
      ((shelf.compute setting path).result.mapError .compile).map shelf.hand⟩ := by
  rw [answer]
  obtain ⟨events, error | value⟩ := shelf.compute setting path
  · rfl
  · simp [Run.mapError, Except.mapError, Except.map]

theorem Shelf.toOption_answer (shelf : Shelf) (setting : Setting) (path : Path) :
    (shelf.answer setting path).result.toOption =
      (shelf.compute setting path).result.toOption.map shelf.hand := by
  rw [answer_eq]
  cases (shelf.compute setting path).result <;> rfl

section

variable {shelf : Shelf} {library next : Library} {spelling : Path} {run : Run LibraryError Answer}

/-- What is stored under a path once a file has been served: what there was, and if there was nothing,
what the file was answered with if that was asked for. -/
theorem Serves.findPath?_eq (hcaching : library.caching = true)
    (h : Serves shelf library spelling next run) (path : Path) :
    ((shelf.cache next).findPath? path).map shelf.hand =
      (((shelf.cache library).findPath? path).map shelf.hand).or
        (if Path.normalize spelling = Path.normalize path then run.result.toOption else none) := by
  cases h with
  | stored _ found =>
    by_cases hsame : Path.normalize spelling = Path.normalize path
    · rw [← (shelf.cache library).findPath?_congr hsame, found]
      rfl
    · rw [if_neg hsame, Option.or_none]
  | uncached uncaching => rw [hcaching] at uncaching; cases uncaching
  | failed _ fresh fails =>
    rw [shelf.toOption_answer, fails]
    simp [Except.toOption]
  | computed _ fresh parsed yields =>
    rw [shelf.cache_restock, Cache.findPath?_store, shelf.toOption_answer, yields]
    by_cases hsame : Path.normalize spelling = Path.normalize path
    · rw [if_pos hsame, if_pos hsame.symm, ← (shelf.cache library).findPath?_congr hsame, fresh]
      rfl
    · rw [if_neg hsame, if_neg (Ne.symm hsame), Option.or_none]

/-- **One request more** adds to what is stored under a path only if there was nothing. -/
theorem findPath?_perform (hcaching : library.caching = true) (request : Request) (path : Path) :
    ((shelf.cache (library.perform request).1).findPath? path).map shelf.hand =
      (((shelf.cache library).findPath? path).map shelf.hand).or
        ((library.occasion request).served? shelf path) := by
  cases hasked : shelf.asked? request with
  | none =>
    rw [cache_perform_of_asked?_eq_none library hasked, Occasion.served?, Library.occasion, hasked,
      Option.or_none]
  | some spelling =>
    obtain rfl := shelf.asked?_eq_some_iff.mp hasked
    rw [Occasion.served?, Library.occasion, hasked]
    exact (serves_perform shelf library spelling).findPath?_eq hcaching path

end

/-- **What is stored under a path** is what the first successful request for it was answered with. -/
theorem findPath?_after {setting : Setting} {past : List Request}
    (h : Request.disableCaching ∉ past) (shelf : Shelf) (path : Path) :
    ((shelf.cache ((Library.empty setting).after past)).findPath? path).map shelf.hand =
      shelf.firstServed? path ((Library.empty setting).history past) := by
  induction past using List.reverseRecOn with
  | nil => cases shelf <;> rfl
  | append_singleton past request ih =>
    rw [List.mem_append, not_or] at h
    rw [Library.after_concat, Library.history_concat, findPath?_perform (Library.caching_after h.1),
      ih h.1, Shelf.firstServed?, Shelf.firstServed?, List.findSome?_append,
      List.findSome?_singleton]

/-- A file is answered from the shelf if it is there, and by the compiler if it is not. -/
theorem Serves.run_eq {shelf : Shelf} {library next : Library} {path : Path}
    {run : Run LibraryError Answer} (hcaching : library.caching = true)
    (h : Serves shelf library path next run) :
    run = match ((shelf.cache library).findPath? path).map shelf.hand with
      | some answer => ⟨[], .ok answer⟩
      | none => shelf.answer library.setting path := by
  cases h with
  | stored _ found => rw [found]; rfl
  | uncached uncaching => rw [hcaching] at uncaching; cases uncaching
  | failed _ fresh fails => rw [fresh]; rfl
  | computed _ fresh parsed yields => rw [fresh]; rfl

/-- A library with a store looks on the shelf first. -/
theorem Library.answerAfter_ask {setting : Setting} {past : List Request}
    (h : Request.disableCaching ∉ past) (shelf : Shelf) (path : Path) :
    (empty setting).answerAfter past (shelf.ask path) =
      match ((shelf.cache ((empty setting).after past)).findPath? path).map shelf.hand with
      | some answer => ⟨[], .ok answer⟩
      | none => shelf.answer (setting.after past) path := by
  rw [answerAfter, (serves_perform shelf _ path).run_eq (caching_after h), setting_after]
  rfl

/-- A file that cannot be served leaves the library as it was. -/
theorem Serves.eq_of_error {shelf : Shelf} {library next : Library} {path : Path}
    {run : Run LibraryError Answer} (h : Serves shelf library path next run) {error : LibraryError}
    (herror : run.result = .error error) : next = library := by
  cases h with
  | computed caching fresh parsed yields =>
    rw [shelf.answer_eq, yields] at herror
    cases herror
  | _ => rfl

/-- **A request that fails leaves the library as it was.** -/
theorem perform_eq_of_error {library : Library} {request : Request} {error : LibraryError}
    (h : (library.perform request).2.result = .error error) :
    (library.perform request).1 = library := by
  cases request using Library.Request.shelf_cases with
  | ask shelf path => exact (serves_perform shelf library path).eq_of_error h
  | load shelf name => rw [perform_load]
  | disableCaching => cases h
  | changeSource source => cases h

/-- **Deleting the requests about one shelf** from the past does not show on the other. -/
theorem alike_after_filter (shelf : Shelf) (library : Library) (past : List Request) :
    Alike shelf (library.after past) (library.after (past.filter shelf.concerns)) := by
  induction past using List.reverseRecOn with
  | nil => exact ⟨rfl, rfl, rfl⟩
  | append_singleton past request ih =>
    rw [Library.after_concat, List.filter_append]
    cases hconcerns : shelf.concerns request with
    | true =>
      rw [List.filter_cons_of_pos hconcerns, List.filter_nil, Library.after_concat]
      exact (ih.perform hconcerns).1
    | false =>
      rw [List.filter_cons_of_neg (by simp [hconcerns]), List.filter_nil, List.append_nil]
      exact (alike_perform _ hconcerns).trans ih

/-- **A library keeps the first success.**  Let the store not have been turned off.  A request for a
file is answered, without anything being read, as the first successful request for any spelling of
its path was, and as the compiler answers it on the files of the moment if there was none.  A request
that fails leaves the library as it was, and the answers about one shelf stay the same if the requests
about the other one are deleted from the past. -/
theorem Library.snapshot {setting : Setting} {past : List Request}
    (h : Request.disableCaching ∉ past) (shelf : Shelf) :
    (∀ path, (empty setting).answerAfter past (shelf.ask path) =
      match shelf.firstServed? path ((empty setting).history past) with
      | some answer => ⟨[], .ok answer⟩
      | none => shelf.answer (setting.after past) path) ∧
    (∀ request error, ((empty setting).answerAfter past request).result = .error error →
      (empty setting).after (past ++ [request]) = (empty setting).after past) ∧
    ∀ request, shelf.concerns request = true → (empty setting).answerAfter past request =
      (empty setting).answerAfter (past.filter shelf.concerns) request := by
  refine ⟨fun path ↦ ?_, fun request error herror ↦ ?_, fun request hconcerns ↦ ?_⟩
  · rw [answerAfter_ask h, findPath?_after h]
  · rw [after_concat]
    exact perform_eq_of_error herror
  · exact ((alike_after_filter shelf (empty setting) past).perform hconcerns).2

/-- The files of a notice board that holds one note. -/
def noticeBoard (note : Text) : Source := MemoryFiles.source ⟨[("note.dem", note)]⟩

/-- A note is asked for before it is finished, asked for again once it is, and then rewritten. -/
def revisions : List Request :=
  [.compile "note.dem", .changeSource (noticeBoard "# A\none".toList), .compile "./note.dem",
    .changeSource (noticeBoard "# A\ntwo".toList)]

/-- The finished note is what counts, under every spelling and without a look at the files. -/
theorem Library.snapshot_revisions :
    Request.disableCaching ∉ revisions ∧
    (empty { source := noticeBoard "# A".toList }).answerAfter revisions
        (.compile "x/../note.dem") =
      ⟨[], .ok (.embed (.object [("title", .text "A".toList),
        ("description", .text "one".toList)]))⟩ := by
  have hstore : Request.disableCaching ∉ revisions := by simp [revisions]
  refine ⟨hstore, ?_⟩
  have hanswer := (@snapshot { source := noticeBoard "# A".toList } _ hstore .embeds).1
    "x/../note.dem"
  have hserved : Shelf.embeds.firstServed? "x/../note.dem"
      ((empty { source := noticeBoard "# A".toList }).history revisions) =
      some (.embed (.object [("title", .text "A".toList),
        ("description", .text "one".toList)])) := by
    rfl
  rw [hserved] at hanswer
  exact hanswer

/-! ## Without a store -/

/-- Without a store, a file is answered by the compiler and nothing is kept. -/
theorem Serves.of_uncaching {shelf : Shelf} {library next : Library} {path : Path}
    {run : Run LibraryError Answer} (h : Serves shelf library path next run)
    (uncaching : library.caching = false) :
    next = library ∧ run = shelf.answer library.setting path := by
  cases h with
  | uncached _ => exact ⟨rfl, rfl⟩
  | stored caching | failed caching | computed caching =>
    rw [uncaching] at caching
    cases caching

/-- A store that is off stays off, and what was stored stays as it is. -/
theorem perform_of_uncaching {library : Library} (uncaching : library.caching = false)
    (request : Request) : (library.perform request).1.caching = false ∧
      ∀ shelf, Shelf.cache shelf (library.perform request).1 = shelf.cache library := by
  cases request using Library.Request.shelf_cases with
  | ask shelf path =>
    rw [((serves_perform shelf library path).of_uncaching uncaching).1]
    exact ⟨uncaching, fun _ ↦ rfl⟩
  | load shelf name =>
    rw [perform_load]
    exact ⟨uncaching, fun _ ↦ rfl⟩
  | disableCaching => exact ⟨rfl, fun shelf ↦ by cases shelf <;> rfl⟩
  | changeSource source => exact ⟨uncaching, fun shelf ↦ by cases shelf <;> rfl⟩

theorem after_of_uncaching {library : Library} (uncaching : library.caching = false)
    (requests : List Request) : (library.after requests).caching = false ∧
      ∀ shelf, Shelf.cache shelf (library.after requests) = shelf.cache library := by
  induction requests using List.reverseRecOn with
  | nil => exact ⟨uncaching, fun _ ↦ rfl⟩
  | append_singleton requests request ih =>
    obtain ⟨hcaching, hcache⟩ := perform_of_uncaching ih.1 request
    rw [Library.after_concat]
    exact ⟨hcaching, fun shelf ↦ (hcache shelf).trans (ih.2 shelf)⟩

/-- **What turning the store off comes to**, whatever came before and comes after: a request for a
file is answered by the compiler on the files of the moment, and nothing is stored.  What was stored
by then is still there, and a request for a name is answered as it would have been at that time. -/
theorem Library.without_store (library : Library) (past rest : List Request) (shelf : Shelf) :
    (∀ path, library.answerAfter (past ++ .disableCaching :: rest) (shelf.ask path) =
      shelf.answer (library.setting.after (past ++ .disableCaching :: rest)) path) ∧
    (∀ name, library.answerAfter (past ++ .disableCaching :: rest) (shelf.load name) =
      library.answerAfter past (shelf.load name)) ∧
    shelf.cache (library.after (past ++ .disableCaching :: rest)) =
      shelf.cache (library.after past) := by
  have hafter : library.after (past ++ .disableCaching :: rest) =
      (library.after past).disableCaching.after rest := library.after_append past _
  obtain ⟨uncaching, hcache⟩ :=
    @after_of_uncaching (library.after past).disableCaching rfl rest
  have hshelf : shelf.cache (library.after (past ++ .disableCaching :: rest)) =
      shelf.cache (library.after past) := by
    rw [hafter, hcache shelf]
    cases shelf <;> rfl
  refine ⟨fun path ↦ ?_, fun name ↦ ?_, hshelf⟩
  · rw [← hafter] at uncaching
    rw [answerAfter, ((serves_perform shelf _ path).of_uncaching uncaching).2, setting_after]
  · rw [answerAfter, answerAfter, perform_load, perform_load, hshelf]

/-- One document that gives itself a name. -/
def guestbook : Setting where
  source := MemoryFiles.source ⟨[("welcome.dem", "@name welcome\n# Welcome\nHello".toList)]⟩

/-- A name that was given before the store was turned off is answered afterwards. -/
theorem Library.loadEmbed_after_disableCaching :
    ((empty guestbook).answerAfter [.compile "welcome.dem", .disableCaching]
        (.loadEmbed "welcome")).result =
      .ok (.embed (.object [("title", .text "Welcome".toList),
        ("description", .text "Hello".toList)])) := by
  rfl

end ChatEmbed
