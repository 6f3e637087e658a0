import ChatEmbed.Proofs.Items

/-!
# How command lines are written

Arguments are read one after the other, with options that change on the way and an option that may
still want its value.  This file says the same without reading: what may be written for the things
that a command line asks for.

* `Options.Short`, `Options.Long` and `Options.Written` are the grammar: which arguments stand for
  which items.
* `Options.Written.readFrom_eq` reads what is written, and `Options.exists_written_of_readFrom` says
  that nothing else is understood.  Together they are `Options.read_eq_ok_iff`.
* `Options.write` is a command line for given options, and `Options.valid_iff` says that there is one
  for all options but those with an empty file name or an equals sign in a token.
-/

set_option autoImplicit false

namespace ChatEmbed

theorem map_eq_ok_iff {ε α β : Type} {result : Except ε α} {f : α → β} {b : β} :
    result.map f = .ok b ↔ ∃ a, result = .ok a ∧ f a = b := by
  cases result <;> simp [Except.map]

namespace Options

/-! ## The grammar -/

/-- An argument that cannot be taken for an option: it has no dash with something behind it. -/
def Plain (argument : Text) : Prop :=
  ∀ c rest, argument ≠ '-' :: c :: rest

/-- What a switch is called behind two dashes. -/
def Switch.name : Switch → Text
  | .blueprint => "blueprint"
  | .compact => "compact"
  | .help => "help"

namespace Valued

/-- What an option with a value is called behind two dashes. -/
def name : Valued → Text
  | .set => "set"
  | .config => "config"

/-- What an option with a value is called behind one dash. -/
def letter : Valued → Char
  | .set => 's'
  | .config => 'c'

/-- The item that the option asks for with a value.  A token ends at the first equals sign. -/
inductive Asks : Valued → Text → Item → Prop
  | set {token : Text} (value : Text) (ends : '=' ∉ token) :
    Asks .set (token ++ '=' :: value) (.set token value)
  | config (path : Path) : Asks .config path (.config path)

end Valued

/-- The letters of an argument behind its dash, with the items that they stand for and the option
that wants the next argument for a value. -/
inductive Short : List Item → Option Valued → Text → Prop
  | blueprint : Short [.blueprint] none ['b']
  /-- More letters may follow in the same argument. -/
  | joined {items : List Item} {wanting : Option Valued} {letters : Text} :
    Short items wanting letters → Short (.blueprint :: items) wanting ('b' :: letters)
  | wanting (valued : Valued) : Short [] (some valued) [valued.letter]
  | attached {valued : Valued} {value : Text} {item : Item} : valued.Asks value item →
    value ≠ [] → value.head? ≠ some '=' → Short [item] none (valued.letter :: value)
  | equals {valued : Valued} {value : Text} {item : Item} : valued.Asks value item →
    Short [item] none (valued.letter :: '=' :: value)

/-- The name of an argument behind its two dashes, maybe with a value, and what it stands for. -/
inductive Long : List Item → Option Valued → Text → Prop
  | blueprint : Long [.blueprint] none Switch.blueprint.name
  | compact : Long [.compact] none Switch.compact.name
  | wanting (valued : Valued) : Long [] (some valued) valued.name
  | equals {valued : Valued} {value : Text} {item : Item} : valued.Asks value item →
    Long [item] none (valued.name ++ '=' :: value)

/-- **The arguments may be written for the items**, behind an option that wants a value if there is
one. -/
inductive Written : Option Valued → List Item → List Text → Prop
  | nil : Written none [] []
  | file {file : Path} {items : List Item} {rest : List Text} : Plain file →
    Written none items rest → Written none (.input file :: items) (file :: rest)
  /-- Behind two dashes alone there are no options any more. -/
  | files (files : List Path) : Written none (files.map .input) ("--".toList :: files)
  | short {before items : List Item} {wanting : Option Valued} {letters : Text} {rest : List Text} :
    Short before wanting letters → Written wanting items rest →
    Written none (before ++ items) (('-' :: letters) :: rest)
  | long {before items : List Item} {wanting : Option Valued} {name : Text} {rest : List Text} :
    Long before wanting name → Written wanting items rest →
    Written none (before ++ items) (('-' :: '-' :: name) :: rest)
  | value {valued : Valued} {value : Text} {item : Item} {items : List Item} {rest : List Text} :
    Plain value → valued.Asks value item → Written none items rest →
    Written (some valued) (item :: items) (value :: rest)

/-! ## What is written is read -/

theorem looksLikeOption_eq_false_iff {argument : Text} :
    looksLikeOption argument = false ↔ Plain argument := by
  rw [looksLikeOption.eq_def]
  split
  · next c rest => exact iff_of_false nofun fun h ↦ h c rest rfl
  · next h => exact iff_of_true rfl fun c rest heq ↦ h c rest heq

theorem ofName?_eq_some_iff {name : Text} {option : Switch ⊕ Valued} :
    ofName? name = some option ↔ name = option.elim Switch.name Valued.name := by
  constructor
  · intro h
    rw [ofName?] at h
    split_ifs at h <;> cases h <;> assumption
  · rintro rfl
    rcases option with switch | valued
    · cases switch <;> rfl
    · cases valued <;> rfl

theorem ofLetter?_valued_iff {c : Char} {valued : Valued} :
    ofLetter? c = some (.inr valued) ↔ c = valued.letter := by
  constructor
  · intro h
    rw [ofLetter?.eq_def] at h
    split at h <;> cases h <;> rfl
  · rintro rfl
    cases valued <;> rfl

section

variable {items : List Item} {item : Item} {wanting : Option Valued} {valued : Valued}
variable {value s : Text}

theorem Valued.Asks.give_eq (h : valued.Asks value item) (options : Options) :
    options.give value valued = options.add item := by
  cases h with
  | @set token value ends =>
    have hcut : Text.cut? '=' (token ++ '=' :: value) = some (token, value) :=
      Text.cut?_eq_some_iff.mpr ⟨rfl, ends⟩
    rw [give, hcut, add]
  | config path => rfl

theorem letters_blueprint (options : Options) (rest : Text) :
    options.letters ('b' :: rest) = options.add .blueprint >>= fun next ↦ next.letters rest := by
  rw [letters.eq_def]
  rfl

/-- A value behind a letter begins behind the equals sign, if there is one. -/
theorem letters_equals (options : Options) (valued : Valued) (value : Text) :
    options.letters (valued.letter :: '=' :: value) =
      (options.give value valued).map fun next ↦ (next, none) := by
  rw [letters.eq_def]
  dsimp only
  rw [ofLetter?_valued_iff.mpr rfl]
  rfl

theorem letters_attached (options : Options) (valued : Valued) (hne : value ≠ [])
    (hhead : value.head? ≠ some '=') :
    options.letters (valued.letter :: value) =
      (options.give value valued).map fun next ↦ (next, none) := by
  rw [letters.eq_def]
  dsimp only
  rw [ofLetter?_valued_iff.mpr rfl]
  dsimp only
  split
  · exact absurd rfl hne
  · exact absurd rfl hhead
  · rfl

theorem foldlM_add_singleton (options : Options) (item : Item) :
    [item].foldlM add options = options.add item := by
  rw [List.foldlM_cons]
  exact bind_pure _

theorem Short.letters_eq (h : Short items wanting s) (options : Options) :
    options.letters s = (items.foldlM add options).map fun next ↦ (next, wanting) := by
  induction h generalizing options with
  | blueprint =>
    rw [letters_blueprint, foldlM_add_singleton]
    cases options.add .blueprint <;> rfl
  | joined _ ih =>
    rw [letters_blueprint, List.foldlM_cons]
    cases options.add .blueprint with
    | error stop => rfl
    | ok next => exact ih next
  | wanting valued => cases valued <;> rfl
  | attached hasks hne hhead =>
    rw [letters_attached options _ hne hhead, hasks.give_eq, foldlM_add_singleton]
  | equals hasks => rw [letters_equals, hasks.give_eq, foldlM_add_singleton]

theorem Valued.equals_not_mem_name (valued : Valued) : '=' ∉ valued.name := by
  cases valued <;> decide

theorem Long.named_eq (h : Long items wanting s) (options : Options) :
    options.named s = (items.foldlM add options).map fun next ↦ (next, wanting) := by
  cases h with
  | blueprint =>
    rw [foldlM_add_singleton]
    rfl
  | compact =>
    rw [foldlM_add_singleton]
    rfl
  | wanting valued => cases valued <;> rfl
  | @equals valued value item hasks =>
    have hcut : Text.cut? '=' (valued.name ++ '=' :: value) = some (valued.name, value) :=
      Text.cut?_eq_some_iff.mpr ⟨rfl, valued.equals_not_mem_name⟩
    rw [named, hcut, foldlM_add_singleton, ← hasks.give_eq]
    dsimp only
    rw [show ofName? valued.name = some (.inr valued) from ofName?_eq_some_iff.mpr rfl]

theorem Short.exists_cons (h : Short items wanting s) : ∃ c rest, s = c :: rest ∧ c ≠ '-' := by
  cases h with
  | blueprint => exact ⟨_, _, rfl, by decide⟩
  | joined => exact ⟨_, _, rfl, by decide⟩
  | wanting valued => exact ⟨_, _, rfl, by cases valued <;> decide⟩
  | @attached valued => exact ⟨_, _, rfl, by cases valued <;> decide⟩
  | @equals valued => exact ⟨_, _, rfl, by cases valued <;> decide⟩

theorem Long.ne_nil (h : Long items wanting s) : s ≠ [] := by
  cases h with
  | blueprint => decide
  | compact => decide
  | wanting valued => cases valued <;> decide
  | equals => simp

theorem addInputs_eq (options : Options) (files : List Path) :
    options.addInputs files = (files.map .input).foldlM add options := by
  induction files generalizing options with
  | nil => rfl
  | cons file rest ih =>
    rw [addInputs, List.map_cons, List.foldlM_cons]
    simp only [ih]
    rfl

variable {arguments rest : List Text}

theorem readFrom_file {file : Path} (h : Plain file) (options : Options) (rest : List Text) :
    readFrom options none (file :: rest) =
      options.add (.input file) >>= fun next ↦ readFrom next none rest := by
  rw [readFrom.eq_def]
  dsimp only
  split
  · exact absurd rfl (h _ _)
  · exact absurd rfl (h _ _)
  · exact absurd rfl (h _ _)
  · rfl

theorem readFrom_short {c : Char} (h : c ≠ '-') (options : Options) (letters : Text)
    (rest : List Text) :
    readFrom options none (('-' :: c :: letters) :: rest) =
      options.letters (c :: letters) >>= fun next ↦ readFrom next.1 next.2 rest := by
  rw [readFrom.eq_def]
  dsimp only
  split
  · next heq =>
    cases heq
    exact absurd rfl h
  · next heq =>
    cases heq
    exact absurd rfl h
  · next heq =>
    cases heq
    rfl
  · next hne => exact absurd rfl (hne _ _)

theorem readFrom_long (h : s ≠ []) (options : Options) (rest : List Text) :
    readFrom options none (('-' :: '-' :: s) :: rest) =
      options.named s >>= fun next ↦ readFrom next.1 next.2 rest := by
  rw [readFrom.eq_def]
  dsimp only
  split
  · next heq =>
    cases heq
    exact absurd rfl h
  · next heq =>
    cases heq
    rfl
  · next hne heq =>
    cases heq
    exact absurd rfl hne
  · next hne => exact absurd rfl (hne _ _)

theorem readFrom_value (h : Plain value) (options : Options) (rest : List Text) :
    readFrom options (some valued) (value :: rest) =
      options.give value valued >>= fun next ↦ readFrom next none rest := by
  rw [readFrom.eq_def]
  dsimp only
  rw [if_neg (by rw [looksLikeOption_eq_false_iff.mpr h]; decide)]

/-- **What is written for some items is read as these items**, one after the other. -/
theorem Written.readFrom_eq (h : Written wanting items arguments) (options : Options) :
    readFrom options wanting arguments = items.foldlM add options := by
  induction h generalizing options with
  | nil => rfl
  | file plain _ ih =>
    rw [readFrom_file plain, List.foldlM_cons]
    simp only [ih]
  | files files => exact addInputs_eq options files
  | short hshort _ ih =>
    obtain ⟨c, letters, rfl, hc⟩ := hshort.exists_cons
    rw [readFrom_short hc, hshort.letters_eq, List.foldlM_append]
    cases List.foldlM add options _ with
    | error stop => rfl
    | ok next => exact ih next
  | long hlong _ ih =>
    rw [readFrom_long hlong.ne_nil, hlong.named_eq, List.foldlM_append]
    cases List.foldlM add options _ with
    | error stop => rfl
    | ok next => exact ih next
  | value plain hasks _ ih =>
    rw [readFrom_value plain, hasks.give_eq, List.foldlM_cons]
    simp only [ih]

/-! ## What is read was written -/

variable {options next : Options}

theorem exists_asks_of_give (h : options.give value valued = .ok next) :
    ∃ item, valued.Asks value item := by
  cases valued with
  | set =>
    rw [give] at h
    split at h
    · next pair hcut =>
      obtain ⟨rfl, ends⟩ := Text.cut?_eq_some_iff.mp hcut
      exact ⟨_, .set _ ends⟩
    · cases h
  | config => exact ⟨_, .config value⟩

theorem exists_short_of_letters (h : options.letters s = .ok (next, wanting)) (hne : s ≠ []) :
    ∃ items, Short items wanting s := by
  induction s generalizing options with
  | nil => exact absurd rfl hne
  | cons c rest ih =>
    rw [letters.eq_def] at h
    dsimp only at h
    split at h
    · cases h
    · next switch hletter =>
      obtain ⟨following, hfollowing, hrest⟩ := bind_eq_ok_iff.mp h
      have hc : c = 'b' := by
        rw [ofLetter?.eq_def] at hletter
        split at hletter <;> cases hletter
        · rfl
        · cases hfollowing
      subst hc
      by_cases hnil : rest = []
      · subst hnil
        cases hrest
        exact ⟨_, .blueprint⟩
      · obtain ⟨items, hitems⟩ := ih hrest hnil
        exact ⟨_, .joined hitems⟩
    · next valued hletter =>
      obtain rfl := ofLetter?_valued_iff.mp hletter
      split at h
      · cases h
        exact ⟨_, .wanting valued⟩
      · obtain ⟨_, hgive, hwanting⟩ := map_eq_ok_iff.mp h
        cases hwanting
        obtain ⟨item, hasks⟩ := exists_asks_of_give hgive
        exact ⟨_, .equals hasks⟩
      · next hnil hequals =>
        obtain ⟨_, hgive, hwanting⟩ := map_eq_ok_iff.mp h
        cases hwanting
        obtain ⟨item, hasks⟩ := exists_asks_of_give hgive
        refine ⟨_, .attached hasks hnil fun hhead ↦ ?_⟩
        obtain ⟨value, hvalue⟩ := List.head?_eq_some_iff.mp hhead
        exact hequals value hvalue

theorem exists_long_of_named (h : options.named s = .ok (next, wanting)) :
    ∃ items, Long items wanting s := by
  rw [named] at h
  cases hcut : Text.cut? '=' s with
  | none =>
    rw [hcut] at h
    dsimp only at h
    split at h
    · next switch hname _ =>
      obtain rfl : s = switch.name := ofName?_eq_some_iff.mp hname
      obtain ⟨_, hturn, hwanting⟩ := map_eq_ok_iff.mp h
      cases hwanting
      cases switch with
      | blueprint => exact ⟨_, .blueprint⟩
      | compact => exact ⟨_, .compact⟩
      | help => cases hturn
    · next hsome => cases hsome
    · next valued hname _ =>
      obtain rfl : s = valued.name := ofName?_eq_some_iff.mp hname
      cases h
      exact ⟨_, .wanting valued⟩
    · cases h
  | some pair =>
    obtain ⟨name, value⟩ := pair
    obtain ⟨rfl, -⟩ := Text.cut?_eq_some_iff.mp hcut
    rw [hcut] at h
    dsimp only at h
    split at h
    · next hnone => cases hnone
    · next valued _ hname hvalue =>
      cases hvalue
      obtain rfl : name = valued.name := ofName?_eq_some_iff.mp hname
      obtain ⟨_, hgive, hwanting⟩ := map_eq_ok_iff.mp h
      cases hwanting
      obtain ⟨item, hasks⟩ := exists_asks_of_give hgive
      exact ⟨_, .equals hasks⟩
    · next hnone => cases hnone
    · cases h

/-- **What is understood was written for some items.** -/
theorem exists_written_of_readFrom (h : readFrom options wanting arguments = .ok next) :
    ∃ items, Written wanting items arguments := by
  induction arguments generalizing options wanting with
  | nil =>
    cases wanting with
    | none => exact ⟨_, .nil⟩
    | some valued => cases h
  | cons argument rest ih =>
    cases wanting with
    | some valued =>
      rw [readFrom.eq_def] at h
      dsimp only at h
      split at h
      · cases h
      · next hlooks =>
        have hplain : Plain argument :=
          looksLikeOption_eq_false_iff.mp (Bool.eq_false_iff.mpr hlooks)
        obtain ⟨following, hgive, hrest⟩ := bind_eq_ok_iff.mp h
        obtain ⟨item, hasks⟩ := exists_asks_of_give hgive
        obtain ⟨items, hitems⟩ := ih hrest
        exact ⟨_, .value hplain hasks hitems⟩
    | none =>
      by_cases hplain : Plain argument
      · rw [readFrom_file hplain] at h
        obtain ⟨_, -, hrest⟩ := bind_eq_ok_iff.mp h
        obtain ⟨items, hitems⟩ := ih hrest
        exact ⟨_, .file hplain hitems⟩
      · have hdash : ∃ c s, argument = '-' :: c :: s := by
          simpa [Plain] using hplain
        obtain ⟨c, s, rfl⟩ := hdash
        by_cases hc : c = '-'
        · subst hc
          by_cases hs : s = []
          · subst hs
            exact ⟨_, .files rest⟩
          · rw [readFrom_long hs] at h
            obtain ⟨following, hnamed, hrest⟩ := bind_eq_ok_iff.mp h
            obtain ⟨before, hbefore⟩ := exists_long_of_named hnamed
            obtain ⟨items, hitems⟩ := ih hrest
            exact ⟨_, .long hbefore hitems⟩
        · rw [readFrom_short hc] at h
          obtain ⟨following, hletters, hrest⟩ := bind_eq_ok_iff.mp h
          obtain ⟨before, hbefore⟩ := exists_short_of_letters hletters (List.cons_ne_nil c s)
          obtain ⟨items, hitems⟩ := ih hrest
          exact ⟨_, .short hbefore hitems⟩

end

/-- The arguments ask for the options. -/
def Asked (arguments : List Text) (options : Options) : Prop :=
  ∃ items, Written none items arguments ∧ Extends {} items options

/-- **Reading follows the grammar.** -/
theorem read_eq_ok_iff {arguments : List Text} {options : Options} :
    read arguments = .ok options ↔ Asked arguments options := by
  constructor
  · intro h
    obtain ⟨items, hitems⟩ := exists_written_of_readFrom h
    rw [read, hitems.readFrom_eq] at h
    exact ⟨items, hitems, foldlM_add_eq_ok_iff.mp h⟩
  · rintro ⟨items, hitems, hext⟩
    rw [read, hitems.readFrom_eq]
    exact foldlM_add_eq_ok_iff.mpr hext

/-- A value that looks like an option has to stand in one argument with its option. -/
example : read ["-s".toList, "-a=b".toList] = .error .usage ∧
    read ["-s-a=b".toList] = .ok { overrides := [("-a".toList, "b".toList)] } := by
  decide

/-! ## A command line for given options -/

/-- The argument that asks for an item, under its full name if it is an option. -/
def Item.argument : Item → Text
  | .blueprint => "--blueprint"
  | .compact => "--compact"
  | .set token value => "--set=" ++ (token ++ '=' :: value)
  | .config path => "--config=" ++ path
  | .input file => file

/-- A command line for options. -/
def write (options : Options) : List Text :=
  options.marked.map Item.argument ++ "--".toList :: options.input.toList

section

variable {items : List Item} {item : Item} {wanting : Option Valued} {s : Text}
variable {arguments rest : List Text} {options : Options}

theorem Valued.Asks.proper {valued : Valued} (h : valued.Asks s item) : item.Proper := by
  cases h with
  | set value ends => exact ends
  | config => trivial

theorem Short.proper (h : Short items wanting s) : ∀ item ∈ items, item.Proper := by
  induction h with
  | blueprint => exact List.forall_mem_singleton.mpr trivial
  | joined _ ih => exact List.forall_mem_cons.mpr ⟨trivial, ih⟩
  | wanting => exact List.forall_mem_nil _
  | attached hasks => exact List.forall_mem_singleton.mpr hasks.proper
  | equals hasks => exact List.forall_mem_singleton.mpr hasks.proper

theorem Long.proper (h : Long items wanting s) : ∀ item ∈ items, item.Proper := by
  cases h with
  | blueprint => exact List.forall_mem_singleton.mpr trivial
  | compact => exact List.forall_mem_singleton.mpr trivial
  | wanting => exact List.forall_mem_nil _
  | equals hasks => exact List.forall_mem_singleton.mpr hasks.proper

/-- Nothing that is written has an equals sign in a token. -/
theorem Written.proper (h : Written wanting items arguments) : ∀ item ∈ items, item.Proper := by
  induction h with
  | nil => exact List.forall_mem_nil _
  | file _ _ ih => exact List.forall_mem_cons.mpr ⟨trivial, ih⟩
  | files files => exact List.forall_mem_map.mpr fun _ _ ↦ trivial
  | short hshort _ ih => exact List.forall_mem_append.mpr ⟨hshort.proper, ih⟩
  | long hlong _ ih => exact List.forall_mem_append.mpr ⟨hlong.proper, ih⟩
  | value _ hasks _ ih => exact List.forall_mem_cons.mpr ⟨hasks.proper, ih⟩

theorem Written.cons_argument (hproper : item.Proper) (hinput : item.input? = none)
    (h : Written none items rest) : Written none (item :: items) (item.argument :: rest) := by
  cases item with
  | blueprint => exact .long .blueprint h
  | compact => exact .long .compact h
  | set token value => exact .long (.equals (.set value hproper)) h
  | config path => exact .long (.equals (.config path)) h
  | input file => cases hinput

theorem Written.append_arguments {before : List Item}
    (hbefore : ∀ item ∈ before, item.Proper ∧ item.input? = none) (h : Written none items rest) :
    Written none (before ++ items) (before.map Item.argument ++ rest) := by
  induction before with
  | nil => exact h
  | cons item before ih =>
    obtain ⟨⟨hproper, hinput⟩, hbefore⟩ := List.forall_mem_cons.mp hbefore
    exact (ih hbefore).cons_argument hproper hinput

theorem written_write (h : options.Valid) :
    Written none (options.marked ++ options.input.toList.map .input) options.write :=
  .append_arguments (fun _ ↦ h.proper_of_mem_marked) (.files _)

/-- **There is a command line for the options** exactly if no file has an empty name and no token has
an equals sign. -/
theorem valid_iff : options.Valid ↔ ∃ arguments, Asked arguments options := by
  constructor
  · exact fun h ↦ ⟨options.write, _, written_write h, extends_marked h⟩
  · rintro ⟨arguments, items, hitems, hext⟩
    exact hext.valid hitems.proper

end

end Options
end ChatEmbed
