import ChatEmbed.Proofs.Json

/-!
# Objects put together entry by entry

An object is built by inserting entries one after the other.  A value that says nothing is ignored, a
new key goes to the end, and a key that is there keeps its place and gets the new value.  So two
moments count for each key: the first time that it is given something decides its place, and the
last time decides its value, whatever happens between them.

* `Entries.givenKeys` lists the keys as they are given something, and `Entries.LastGiven` is the
  value that a key is given last.
* `Entries.Records` says in these terms which entries a list of insertions leads to.
  `Records.insert` and `Records.skip` are one insertion more, `records_ofFilled` is the whole list.
* `filled_records` says that the object is this record, that there is no other one, and that
  insertions that say nothing could be left out anywhere.
-/

set_option autoImplicit false

namespace ChatEmbed
namespace Json
namespace Entries

/-! ## First and last times -/

/-- The keys that are given a value that says something, as often as that happens. -/
def givenKeys (inserts : Entries) : List Text :=
  (inserts.filter fun entry ↦ !entry.2.isEmpty).map Prod.fst

/-- The key is given the value, which says something, and nothing that does so afterwards. -/
def LastGiven (inserts : Entries) (key : Text) (value : Json) : Prop :=
  ∃ before after, inserts = before ++ (key, value) :: after ∧ ¬value.Vacant ∧
    ∀ later, (key, later) ∈ after → later.Vacant

/-- The entries are what a list of insertions leads to. -/
structure Records (inserts entries : Entries) : Prop where
  /-- No key is there twice. -/
  distinct : (entries.map Prod.fst).Nodup
  /-- The keys are those that are given something at least once. -/
  keys : ∀ key, key ∈ entries.map Prod.fst ↔ ∃ value, (key, value) ∈ inserts ∧ ¬value.Vacant
  /-- Of two keys, the one that is given something first, for the first time, comes first. -/
  order : (entries.map Prod.fst).Pairwise fun first second ↦
    inserts.givenKeys.idxOf first < inserts.givenKeys.idxOf second
  /-- The values are those that are given last. -/
  last : ∀ key value, (key, value) ∈ entries ↔ inserts.LastGiven key value

section

variable {inserts entries : Entries} {key k : Text} {value v : Json}

theorem mem_givenKeys_iff :
    key ∈ inserts.givenKeys ↔ ∃ value, (key, value) ∈ inserts ∧ ¬value.Vacant := by
  simp [givenKeys, isEmpty_eq_false_iff]

theorem givenKeys_concat_of_vacant (h : v.Vacant) (inserts : Entries) (k : Text) :
    givenKeys (inserts ++ [(k, v)]) = inserts.givenKeys := by
  simp [givenKeys, isEmpty_iff.mpr h]

theorem givenKeys_concat (h : ¬v.Vacant) (inserts : Entries) (k : Text) :
    givenKeys (inserts ++ [(k, v)]) = inserts.givenKeys ++ [k] := by
  simp [givenKeys, isEmpty_eq_false_iff.mpr h]

/-- What is given last stays so as long as the key is given nothing more. -/
theorem LastGiven.concat (h : inserts.LastGiven key value) (hother : key = k → v.Vacant) :
    LastGiven (inserts ++ [(k, v)]) key value := by
  obtain ⟨before, after, rfl, hfilled, hlater⟩ := h
  refine ⟨before, after ++ [(k, v)], by simp, hfilled, fun later hmem ↦ ?_⟩
  rcases List.mem_append.mp hmem with hafter | hlast
  · exact hlater later hafter
  · cases List.mem_singleton.mp hlast
    exact hother rfl

/-- What is given last is given by the last insertion, or that one gives the key nothing. -/
theorem LastGiven.of_concat (h : LastGiven (inserts ++ [(k, v)]) key value) :
    (key, value) = (k, v) ∧ ¬v.Vacant ∨
      (key = k → v.Vacant) ∧ inserts.LastGiven key value := by
  obtain ⟨before, after, heq, hfilled, hlater⟩ := h
  rcases List.eq_nil_or_concat after with rfl | ⟨after, last, rfl⟩
  · obtain ⟨-, hlast⟩ := List.append_inj' heq rfl
    cases hlast
    exact .inl ⟨rfl, hfilled⟩
  · rw [List.concat_eq_append] at heq hlater
    rw [← List.cons_append, ← List.append_assoc] at heq
    obtain ⟨rfl, hlast⟩ := List.append_inj' heq rfl
    cases hlast
    refine .inr ⟨fun hkey ↦ hlater v ?_, before, after, rfl, hfilled, fun later hmem ↦
      hlater later (List.mem_append_left _ hmem)⟩
    exact hkey ▸ List.mem_append_right _ (List.mem_singleton_self _)

theorem lastGiven_concat_of_vacant (h : v.Vacant) :
    LastGiven (inserts ++ [(k, v)]) key value ↔ inserts.LastGiven key value := by
  constructor
  · intro hlast
    rcases hlast.of_concat with ⟨-, hfilled⟩ | ⟨-, hlast⟩
    · exact absurd h hfilled
    · exact hlast
  · exact fun hlast ↦ hlast.concat fun _ ↦ h

theorem lastGiven_concat (h : ¬v.Vacant) :
    LastGiven (inserts ++ [(k, v)]) key value ↔
      key = k ∧ value = v ∨ key ≠ k ∧ inserts.LastGiven key value := by
  constructor
  · intro hlast
    rcases hlast.of_concat with ⟨hsame, -⟩ | ⟨hother, hlast⟩
    · exact .inl (Prod.mk.inj hsame)
    · exact .inr ⟨fun hkey ↦ h (hother hkey), hlast⟩
  · rintro (⟨rfl, rfl⟩ | ⟨hne, hlast⟩)
    · exact ⟨inserts, [], rfl, h, nofun⟩
    · exact hlast.concat fun hkey ↦ absurd hkey hne

/-! ## One insertion -/

/-- A key that is there keeps its place. -/
theorem map_fst_insert_of_mem (h : key ∈ entries.map Prod.fst) (value : Json) :
    (Entries.insert key value entries).map Prod.fst = entries.map Prod.fst := by
  induction entries with
  | nil => cases h
  | cons entry rest ih =>
    rw [Entries.insert]
    split
    · rfl
    · next hne =>
      rw [List.map_cons, List.map_cons, ih ((List.mem_cons.mp h).resolve_left (Ne.symm hne))]

/-- A new value takes the place of the old one, and no other entry changes. -/
theorem mem_insert_iff (hdistinct : (entries.map Prod.fst).Nodup) :
    (key, value) ∈ Entries.insert k v entries ↔
      key = k ∧ value = v ∨ key ≠ k ∧ (key, value) ∈ entries := by
  induction entries with
  | nil => simp [Entries.insert]
  | cons entry rest ih =>
    obtain ⟨first, old⟩ := entry
    obtain ⟨hfresh, hrest⟩ := List.nodup_cons.mp hdistinct
    have hne (hmem : (key, value) ∈ rest) : key ≠ first := by
      have hkey : key ∈ rest.map Prod.fst := List.mem_map_of_mem hmem
      rintro rfl
      exact hfresh hkey
    rw [Entries.insert]
    split
    · next heq =>
      subst heq
      simp only [List.mem_cons, Prod.mk.injEq]
      grind
    · next hfirst =>
      have hother (hkey : key = first) : key ≠ k := fun h ↦ hfirst (hkey.symm.trans h)
      simp only [List.mem_cons, Prod.mk.injEq, ih hrest]
      grind

namespace Records

theorem nil : Records [] [] where
  distinct := List.nodup_nil
  keys key := by simp
  order := List.Pairwise.nil
  last key value := by simp [LastGiven]

theorem mem_keys_iff (h : inserts.Records entries) :
    key ∈ entries.map Prod.fst ↔ key ∈ inserts.givenKeys := by
  rw [h.keys, mem_givenKeys_iff]

/-- **An insertion that says nothing leaves no trace.** -/
theorem skip (h : inserts.Records entries) (hvacant : v.Vacant) (k : Text) :
    Records (inserts ++ [(k, v)]) entries where
  distinct := h.distinct
  keys key := by rw [h.mem_keys_iff, ← mem_givenKeys_iff, givenKeys_concat_of_vacant hvacant]
  order := by
    rw [givenKeys_concat_of_vacant hvacant]
    exact h.order
  last key value := by rw [h.last, lastGiven_concat_of_vacant hvacant]

/-- Keys that have been given something stay in order, whatever is given something after them. -/
theorem order_concat (h : inserts.Records entries) (k : Text) :
    (entries.map Prod.fst).Pairwise fun first second ↦
      (inserts.givenKeys ++ [k]).idxOf first < (inserts.givenKeys ++ [k]).idxOf second := by
  refine h.order.imp_of_mem fun hfirst hsecond hlt ↦ ?_
  rwa [List.idxOf_append_of_mem (h.mem_keys_iff.mp hfirst),
    List.idxOf_append_of_mem (h.mem_keys_iff.mp hsecond)]

/-- **One insertion more** that says something. -/
theorem insert (h : inserts.Records entries) (hfilled : ¬v.Vacant) (k : Text) :
    Records (inserts ++ [(k, v)]) (Entries.insert k v entries) := by
  have hlast (key : Text) (value : Json) : (key, value) ∈ Entries.insert k v entries ↔
      LastGiven (inserts ++ [(k, v)]) key value := by
    rw [mem_insert_iff h.distinct, lastGiven_concat hfilled, h.last]
  have hgiven := givenKeys_concat hfilled inserts k
  by_cases hk : k ∈ entries.map Prod.fst
  · have hkeys := map_fst_insert_of_mem hk v
    refine ⟨hkeys ▸ h.distinct, fun key ↦ ?_, ?_, hlast⟩
    · rw [hkeys, ← mem_givenKeys_iff, hgiven, List.mem_append, List.mem_singleton, h.mem_keys_iff]
      exact ⟨.inl, (·.elim id fun heq ↦ heq ▸ h.mem_keys_iff.mp hk)⟩
    · rw [hkeys, hgiven]
      exact h.order_concat k
  · have hkeys : (Entries.insert k v entries).map Prod.fst = entries.map Prod.fst ++ [k] := by
      rw [insert_of_not_mem hk, List.map_append, List.map_singleton]
    have hnew : k ∉ inserts.givenKeys := mt h.mem_keys_iff.mpr hk
    refine ⟨?_, fun key ↦ ?_, ?_, hlast⟩
    · rw [hkeys, ← List.concat_eq_append]
      exact h.distinct.concat hk
    · rw [hkeys, ← mem_givenKeys_iff, hgiven, List.mem_append, List.mem_append, h.mem_keys_iff]
    · -- the new key is given something for the first time, so after all that are there
      rw [hkeys, hgiven, List.pairwise_append]
      refine ⟨h.order_concat k, List.pairwise_singleton _ _, fun first hfirst last hlast ↦ ?_⟩
      have hfirst := h.mem_keys_iff.mp hfirst
      rw [List.mem_singleton.mp hlast, List.idxOf_append_of_mem hfirst,
        List.idxOf_append_of_notMem hnew]
      exact Nat.lt_add_right _ (List.idxOf_lt_length_iff.mpr hfirst)

/-- There is only one record of a list of insertions. -/
theorem unique {others : Entries} (h : inserts.Records entries) (h' : inserts.Records others) :
    entries = others := by
  have hperm : entries.Perm others := by
    rw [List.perm_ext_iff_of_nodup h.distinct.of_map h'.distinct.of_map]
    rintro ⟨key, value⟩
    rw [h.last, h'.last]
  have horder {l : Entries} (hl : inserts.Records l) : l.Pairwise fun first second ↦
      inserts.givenKeys.idxOf first.1 < inserts.givenKeys.idxOf second.1 := by
    have hkeys := hl.order
    rwa [List.pairwise_map] at hkeys
  exact hperm.eq_of_pairwise (fun _ _ _ _ hlt hgt ↦ absurd hlt (Nat.lt_asymm hgt)) (horder h)
    (horder h')

end Records

/-! ## All insertions -/

theorem records_ofFilled (inserts : Entries) : inserts.Records (ofFilled inserts) := by
  induction inserts using List.reverseRecOn with
  | nil => exact .nil
  | append_singleton inserts last ih =>
    rw [ofFilled_concat, insertFilled]
    split
    · next h => exact ih.skip (isEmpty_iff.mp h) last.1
    · next h => exact ih.insert (mt isEmpty_iff.mpr h) last.1

theorem ofFilled_without (h : v.Vacant) (before after : Entries) (k : Text) :
    ofFilled (before ++ (k, v) :: after) = ofFilled (before ++ after) := by
  rw [ofFilled, ofFilled, List.foldl_append, List.foldl_append, List.foldl_cons, insertFilled,
    if_pos (isEmpty_iff.mpr h)]

end

end Entries

/-- **The object that a list of insertions leads to.**  Its keys are distinct, and they are those that
are given something that is not empty, in the order in which that happens for the first time.  Each
has the value that is the last such thing it is given.  No other object can be said to be so.  And
an insertion of something empty, wherever it stands, adds no entry and changes, moves or removes
none. -/
theorem filled_records (inserts : Entries) :
    (∃ entries, filled inserts = .object entries ∧ inserts.Records entries ∧
      ∀ others, inserts.Records others → others = entries) ∧
    ∀ before key value after, inserts = before ++ (key, value) :: after → value.Vacant →
      filled inserts = filled (before ++ after) := by
  constructor
  · have hrecords := Entries.records_ofFilled inserts
    exact ⟨Entries.ofFilled inserts, rfl, hrecords, fun _ hothers ↦ hothers.unique hrecords⟩
  · rintro before key value after rfl hvacant
    rw [filled, filled, Entries.ofFilled_without hvacant]

/-- Two keys that are given values in turn, some of them empty. -/
def alternation : Entries :=
  [("a".toList, .text []), ("b".toList, .number 1), ("a".toList, .bool true), ("b".toList, .null),
    ("c".toList, .list []), ("b".toList, .number 2), ("a".toList, .object [])]

/-- The key `b` is the first that is given something, and nothing takes away what `a` has. -/
theorem filled_records_alternation :
    alternation.Records [("b".toList, .number 2), ("a".toList, .bool true)] ∧
    alternation = alternation.take 3 ++ ("b".toList, .null) :: alternation.drop 4 ∧
    Vacant .null ∧
    filled (alternation.take 3 ++ alternation.drop 4) =
      .object [("b".toList, .number 2), ("a".toList, .bool true)] := by
  obtain ⟨⟨entries, hfilled, hrecords, -⟩, hwithout⟩ := filled_records alternation
  have hobject : filled alternation = .object [("b".toList, .number 2), ("a".toList, .bool true)] :=
    rfl
  cases hobject.symm.trans hfilled
  exact ⟨hrecords, rfl, .null, (hwithout _ _ _ _ rfl .null).symm.trans hobject⟩

end Json
end ChatEmbed
