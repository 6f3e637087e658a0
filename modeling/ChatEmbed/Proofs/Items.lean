import ChatEmbed.CommandLine.Options
import ChatEmbed.Proofs.Payload

/-!
# What a command line asks for

A command line asks for several things, one after the other, and options put them together.

* `Options.Item` is one thing that a command line asks for, `Options.add` puts it to others.
* `Options.Extends` says what options are after some items, by what the items are and not by their
  order: nothing but a value for a token can be asked for twice.
* `Options.foldlM_add_eq_ok_iff` says that adding item by item comes to this.
* `Options.Valid` are the options that items can lead to, `Options.marked` with the input file are
  items that do.
-/

set_option autoImplicit false

namespace ChatEmbed
namespace Options

/-! ## Items -/

/-- One thing that a command line asks for. -/
inductive Item
  | blueprint
  | compact
  /-- A value for a token. -/
  | set (token value : Text)
  | config (path : Path)
  | input (file : Path)
deriving DecidableEq

namespace Item

@[simp] def override? : Item → Option Token.Pair
  | set token value => some (token, value)
  | _ => none

@[simp] def config? : Item → Option Path
  | config path => some path
  | _ => none

@[simp] def input? : Item → Option Path
  | input file => some file
  | _ => none

end Item

/-- The second options are the first ones with the items added to them. -/
@[mk_iff] structure Extends (start : Options) (items : List Item) (options : Options) : Prop where
  blueprint : start.blueprint.toNat + items.count .blueprint = options.blueprint.toNat
  compact : start.compact.toNat + items.count .compact = options.compact.toNat
  overrides : start.overrides ++ items.filterMap Item.override? = options.overrides
  config : start.config.toList ++ items.filterMap Item.config? = options.config.toList
  input : start.input.toList ++ items.filterMap Item.input? = options.input.toList
  /-- The files have names. -/
  named : .config [] ∉ items ∧ .input [] ∉ items

/-- The options with one more item. -/
def add (options : Options) : Item → Except Stop Options
  | .blueprint => options.turnOn .blueprint
  | .compact => options.turnOn .compact
  | .set token value => .ok { options with overrides := options.overrides ++ [(token, value)] }
  | .config path => options.give path .config
  | .input file => options.addInput file

/-! ## One item more -/

section

variable {α : Type}

theorem toNat_injective {b b' : Bool} (h : b.toNat = b'.toNat) : b = b' := by
  revert b b'
  decide

theorem toList_injective {o o' : Option α} (h : o.toList = o'.toList) : o = o' := by
  rw [← @Option.head?_toList _ o, h, Option.head?_toList]

theorem toNat_add_succ_ne (n : Nat) (b : Bool) : true.toNat + (n + 1) ≠ b.toNat := by
  have hle := b.toNat_le
  rw [Bool.toNat_true]
  omega

theorem toList_append_cons_ne (a b : α) (l : List α) (o : Option α) :
    (some a).toList ++ b :: l ≠ o.toList := by
  intro h
  have hle := o.length_toList_le
  rw [← h] at hle
  simp at hle

end

section

variable {start options : Options} {item : Item} {items : List Item}

theorem extends_nil : Extends start [] options ↔ start = options := by
  constructor
  · rintro ⟨hblueprint, hcompact, hoverrides, hconfig, hinput, -⟩
    obtain ⟨input, blueprint, overrides, config, compact⟩ := start
    obtain ⟨input', blueprint', overrides', config', compact'⟩ := options
    simp only [List.count_nil, Nat.add_zero, List.filterMap_nil, List.append_nil] at *
    cases toNat_injective hblueprint
    cases toNat_injective hcompact
    cases toList_injective hconfig
    cases toList_injective hinput
    rw [hoverrides]
  · rintro rfl
    simp [extends_iff]

/-- **One item more** is either refused, and then no options have it besides those to start with, or
leads to options that the other items extend. -/
theorem extends_cons : Extends start (item :: items) options ↔
    ∃ next, start.add item = .ok next ∧ Extends next items options := by
  cases item with
  | blueprint =>
    cases h : start.blueprint with
    | true =>
      refine iff_of_false (fun hext ↦ ?_) (by simp [add, turnOn, h])
      have hcount := hext.blueprint
      rw [h, List.count_cons_self] at hcount
      exact toNat_add_succ_ne _ _ hcount
    | false => simp [add, turnOn, h, extends_iff, List.filterMap_cons, Nat.add_comm]
  | compact =>
    cases h : start.compact with
    | true =>
      refine iff_of_false (fun hext ↦ ?_) (by simp [add, turnOn, h])
      have hcount := hext.compact
      rw [h, List.count_cons_self] at hcount
      exact toNat_add_succ_ne _ _ hcount
    | false => simp [add, turnOn, h, extends_iff, List.filterMap_cons, Nat.add_comm]
  | set token value => simp [add, extends_iff, List.filterMap_cons]
  | config path =>
    cases h : start.config with
    | some old =>
      refine iff_of_false (fun hext ↦ ?_) (by simp [add, give, h])
      have hlist := hext.config
      rw [h] at hlist
      exact toList_append_cons_ne _ _ _ _ hlist
    | none =>
      by_cases hpath : path = []
      · refine iff_of_false (fun hext ↦ ?_) (by simp [add, give, hpath])
        exact hext.named.1 (hpath ▸ List.mem_cons_self)
      · simp [add, give, h, hpath, extends_iff, List.filterMap_cons, Ne.symm hpath]
  | input file =>
    cases h : start.input with
    | some old =>
      refine iff_of_false (fun hext ↦ ?_) (by simp [add, addInput, h])
      have hlist := hext.input
      rw [h] at hlist
      exact toList_append_cons_ne _ _ _ _ hlist
    | none =>
      by_cases hfile : file = []
      · refine iff_of_false (fun hext ↦ ?_) (by simp [add, addInput, hfile])
        exact hext.named.2 (hfile ▸ List.mem_cons_self)
      · simp [add, addInput, h, hfile, extends_iff, List.filterMap_cons, Ne.symm hfile]

theorem foldlM_add_eq_ok_iff : items.foldlM add start = .ok options ↔
    Extends start items options := by
  induction items generalizing start with
  | nil =>
    rw [List.foldlM_nil, extends_nil]
    exact ⟨fun h ↦ Except.ok.inj h, fun h ↦ congrArg Except.ok h⟩
  | cons item rest ih =>
    rw [List.foldlM_cons, bind_eq_ok_iff, extends_cons]
    simp only [ih]

end

/-! ## Items for given options -/

/-- The item has no equals sign in a token. -/
def Item.Proper : Item → Prop
  | .set token _ => '=' ∉ token
  | _ => True

/-- No file has an empty name and no token has an equals sign. -/
structure Valid (options : Options) : Prop where
  tokens : ∀ pair ∈ options.overrides, '=' ∉ pair.1
  config : options.config ≠ some []
  input : options.input ≠ some []

theorem Extends.config_mem {items : List Item} {options : Options} {path : Path}
    (h : Extends {} items options) (hpath : options.config = some path) : .config path ∈ items := by
  have hlist : items.filterMap Item.config? = options.config.toList := h.config
  have hmem : path ∈ items.filterMap Item.config? := by simp [hlist, hpath]
  obtain ⟨item, hmem, hitem⟩ := List.mem_filterMap.mp hmem
  cases item <;> cases hitem
  exact hmem

theorem Extends.input_mem {items : List Item} {options : Options} {file : Path}
    (h : Extends {} items options) (hfile : options.input = some file) : .input file ∈ items := by
  have hlist : items.filterMap Item.input? = options.input.toList := h.input
  have hmem : file ∈ items.filterMap Item.input? := by simp [hlist, hfile]
  obtain ⟨item, hmem, hitem⟩ := List.mem_filterMap.mp hmem
  cases item <;> cases hitem
  exact hmem

theorem Extends.valid {items : List Item} {options : Options} (h : Extends {} items options)
    (hproper : ∀ item ∈ items, item.Proper) : options.Valid where
  tokens pair hpair := by
    rw [← h.overrides] at hpair
    obtain ⟨item, hmem, hitem⟩ := List.mem_filterMap.mp hpair
    cases item <;> cases hitem
    exact hproper _ hmem
  config hconfig := h.named.1 (h.config_mem hconfig)
  input hinput := h.named.2 (h.input_mem hinput)

/-- The items of options but for the input file. -/
def marked (options : Options) : List Item :=
  List.replicate options.blueprint.toNat .blueprint ++
    (List.replicate options.compact.toNat .compact ++
      (options.overrides.map (fun pair ↦ .set pair.1 pair.2) ++
        options.config.toList.map .config))

theorem Valid.proper_of_mem_marked {options : Options} (h : options.Valid) {item : Item}
    (hitem : item ∈ options.marked) : item.Proper ∧ item.input? = none := by
  simp only [marked, List.mem_append, List.mem_replicate, List.mem_map] at hitem
  rcases hitem with ⟨-, rfl⟩ | ⟨-, rfl⟩ | ⟨pair, hpair, rfl⟩ | ⟨path, -, rfl⟩
  · exact ⟨trivial, rfl⟩
  · exact ⟨trivial, rfl⟩
  · exact ⟨h.tokens pair hpair, rfl⟩
  · exact ⟨trivial, rfl⟩

theorem extends_marked {options : Options} (h : options.Valid) :
    Extends {} (options.marked ++ options.input.toList.map .input) options := by
  obtain ⟨input, blueprint, overrides, config, compact⟩ := options
  constructor
  · simp [marked, List.count_eq_zero]
  · cases blueprint <;> simp [marked, List.count_eq_zero]
  · cases blueprint <;> cases compact <;> simp [marked, List.filterMap_cons, Function.comp_def]
  · cases blueprint <;> cases compact <;> simp [marked, List.filterMap_cons, Function.comp_def]
  · cases blueprint <;> cases compact <;> simp [marked, List.filterMap_cons, Function.comp_def]
  · simp [marked, h.config, h.input]

end Options
end ChatEmbed
