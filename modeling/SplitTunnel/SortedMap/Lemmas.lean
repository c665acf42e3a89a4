import SplitTunnel.SortedMap.Basic

namespace SplitTunnel

/-!
# Look-ups after map operations

A map is known by its look-ups: each operation says what it does to them, and
two maps with the same look-ups are equal.
-/

namespace SortedMap

variable [Ord κ]

/-- The empty map finds nothing. -/
@[simp]
theorem get?_empty (key : κ) : (∅ : SortedMap κ α).get? key = none :=
  rfl

variable [Std.LawfulEqOrd κ]

section Entries

/-- Keys that differ do not compare as equal. -/
theorem compare_ne
    {first second : κ}
    (different : first ≠ second) :
    compare first second ≠ .eq :=
  fun same => different (Std.LawfulEqOrd.eq_of_compare same)

/-- A look-up of the inserted key finds the inserted value. -/
theorem lookupEntry_insertEntry_self
    (key : κ)
    (value : α)
    (entries : List (κ × α)) :
    lookupEntry key (insertEntry key value entries) = some value := by
  induction entries with
  | nil => simp [insertEntry, lookupEntry]
  | cons first rest inductionHypothesis =>
      rw [insertEntry]
      split
      · simp [lookupEntry]
      · simp [lookupEntry]
      · rename_i isGreater
        simp [lookupEntry, isGreater, inductionHypothesis]

/-- Insertion does not change the look-up of another key. -/
theorem lookupEntry_insertEntry_of_ne
    {key other : κ}
    (different : other ≠ key)
    (value : α)
    (entries : List (κ × α)) :
    lookupEntry other (insertEntry key value entries) = lookupEntry other entries := by
  induction entries with
  | nil => simp [insertEntry, lookupEntry, compare_ne different]
  | cons first rest inductionHypothesis =>
      obtain ⟨stored, old⟩ := first
      rw [insertEntry]
      split
      · rw [lookupEntry, if_neg (compare_ne different)]
      · rename_i isSame
        have sameKey : key = stored := Std.LawfulEqOrd.eq_of_compare isSame
        subst sameKey
        simp [lookupEntry, compare_ne different]
      · simp only [lookupEntry, inductionHypothesis]

/-- In an ascending list a look-up finds exactly the entries of the list. -/
theorem lookupEntry_eq_some_iff
    {entries : List (κ × α)}
    (sorted : Ascending entries)
    {key : κ}
    {value : α} :
    lookupEntry key entries = some value ↔ (key, value) ∈ entries := by
  induction entries with
  | nil => simp [lookupEntry]
  | cons first rest inductionHypothesis =>
      obtain ⟨stored, old⟩ := first
      obtain ⟨before, sortedRest⟩ := List.pairwise_cons.mp sorted
      rw [lookupEntry, List.mem_cons]
      split
      · rename_i isSame
        have sameKey : key = stored := Std.LawfulEqOrd.eq_of_compare isSame
        subst sameKey
        constructor
        · intro found
          cases found
          exact Or.inl rfl
        · rintro (isFirst | inRest)
          · cases isFirst
            rfl
          · have ordered := before _ inRest
            rw [Std.ReflOrd.compare_self] at ordered
            contradiction
      · rename_i isOther
        rw [inductionHypothesis sortedRest]
        constructor
        · exact Or.inr
        · rintro (isFirst | inRest)
          · cases isFirst
            exact absurd Std.ReflOrd.compare_self isOther
          · exact inRest

end Entries

/-- The entries of a map are what its look-ups find. -/
theorem get?_eq_some_iff
    {map : SortedMap κ α}
    {key : κ}
    {value : α} :
    map.get? key = some value ↔ (key, value) ∈ map.entries :=
  lookupEntry_eq_some_iff map.ascending

/-- A filter keeps the values that its test accepts. -/
theorem get?_filter
    (map : SortedMap κ α)
    (keep : κ → α → Bool)
    (key : κ) :
    (map.filter keep).get? key = (map.get? key).filter (keep key) := by
  apply Option.ext
  intro value
  rw [get?_eq_some_iff, Option.filter_eq_some_iff, get?_eq_some_iff]
  exact List.mem_filter

/-- An erased key has no value. -/
@[simp]
theorem get?_erase_self
    (map : SortedMap κ α)
    (key : κ) :
    (map.erase key).get? key = none := by
  rw [erase, get?_filter]
  simp

/-- Other keys keep their values when one is erased. -/
theorem get?_erase_of_ne
    (map : SortedMap κ α)
    {key other : κ}
    (different : other ≠ key) :
    (map.erase key).get? other = map.get? other := by
  rw [erase, get?_filter]
  have kept : compare key other ≠ .eq := compare_ne different.symm
  cases map.get? other <;> simp [kept]

/-- After a removal those are there that were, but for the removed key. -/
@[simp]
theorem contains_erase
    {map : SortedMap κ α}
    {key other : κ} :
    (map.erase key).contains other = true ↔ other ≠ key ∧ map.contains other = true := by
  rw [contains, contains]
  by_cases same : other = key
  · rw [same, get?_erase_self]
    simp
  · rw [get?_erase_of_ne _ same]
    simp [same]

/-- Changing values changes what the look-ups find. -/
theorem get?_filterMap
    (map : SortedMap κ α)
    (change : κ → α → Option β)
    (key : κ) :
    (map.filterMap change).get? key = (map.get? key).bind (change key) := by
  apply Option.ext
  intro value
  rw [get?_eq_some_iff, Option.bind_eq_some_iff]
  constructor
  · intro member
    obtain ⟨⟨stored, old⟩, inMap, image⟩ := List.mem_filterMap.mp member
    obtain ⟨changed, isChanged, same⟩ := Option.map_eq_some_iff.mp image
    cases same
    exact ⟨old, get?_eq_some_iff.mpr inMap, isChanged⟩
  · rintro ⟨old, found, isChanged⟩
    refine List.mem_filterMap.mpr ⟨(key, old), get?_eq_some_iff.mp found, ?_⟩
    simp [isChanged]

/-- The keys of a map are the keys that have values. -/
theorem mem_keys_iff
    {map : SortedMap κ α}
    {key : κ} :
    key ∈ map.keys ↔ map.contains key = true := by
  rw [contains, Option.isSome_iff_exists]
  constructor
  · intro member
    obtain ⟨⟨stored, value⟩, inMap, rfl⟩ := List.mem_map.mp member
    exact ⟨value, get?_eq_some_iff.mpr inMap⟩
  · rintro ⟨value, found⟩
    exact List.mem_map.mpr ⟨(key, value), get?_eq_some_iff.mp found, rfl⟩

/-- No key is listed twice. -/
theorem nodup_keys (map : SortedMap κ α) : map.keys.Nodup := by
  refine List.Pairwise.map Prod.fst ?_ map.ascending
  rintro first second isBefore same
  rw [same] at isBefore
  simp at isBefore

/-- A map is empty if and only if no key has a value. -/
theorem isEmpty_iff
    {map : SortedMap κ α} :
    map.isEmpty = true ↔ ∀ key, map.contains key = false := by
  rw [isEmpty, List.isEmpty_iff]
  constructor
  · intro noEntries key
    rw [contains, get?, noEntries]
    rfl
  · intro noKey
    apply List.eq_nil_iff_forall_not_mem.mpr
    rintro ⟨key, value⟩ member
    have isThere : map.get? key = some value := get?_eq_some_iff.mpr member
    have notThere := noKey key
    rw [contains, isThere] at notThere
    contradiction

variable [Std.TransOrd κ]

/-- The inserted key has the inserted value. -/
@[simp]
theorem get?_insert_self
    (map : SortedMap κ α)
    (key : κ)
    (value : α) :
    (map.insert key value).get? key = some value :=
  lookupEntry_insertEntry_self key value map.entries

/-- Other keys keep their values when one is inserted. -/
theorem get?_insert_of_ne
    (map : SortedMap κ α)
    {key other : κ}
    (different : other ≠ key)
    (value : α) :
    (map.insert key value).get? other = map.get? other :=
  lookupEntry_insertEntry_of_ne different value map.entries

/-- Ascending lists with the same members are equal. -/
theorem eq_of_mem_iff
    {first second : List (κ × α)}
    (firstSorted : Ascending first)
    (secondSorted : Ascending second)
    (sameMembers : ∀ entry, entry ∈ first ↔ entry ∈ second) :
    first = second := by
  induction first generalizing second with
  | nil =>
      cases second with
      | nil => rfl
      | cons head rest => exact absurd ((sameMembers head).mpr (List.mem_cons_self ..)) (by simp)
  | cons head rest inductionHypothesis =>
      cases second with
      | nil => exact absurd ((sameMembers head).mp (List.mem_cons_self ..)) (by simp)
      | cons other others =>
          obtain ⟨beforeHead, restSorted⟩ := List.pairwise_cons.mp firstSorted
          obtain ⟨beforeOther, othersSorted⟩ := List.pairwise_cons.mp secondSorted
          have irreflexive (entry : κ × α) : compare entry.1 entry.1 ≠ .lt := by
            simp
          have sameHead : head = other := by
            rcases List.mem_cons.mp ((sameMembers head).mp (List.mem_cons_self ..))
              with isOther | inOthers
            · exact isOther
            · rcases List.mem_cons.mp ((sameMembers other).mpr (List.mem_cons_self ..))
                with isHead | inRest
              · exact isHead.symm
              · exact absurd
                  (Std.TransCmp.lt_trans (beforeOther head inOthers) (beforeHead other inRest))
                  (irreflexive other)
          subst sameHead
          congr 1
          apply inductionHypothesis restSorted othersSorted
          intro entry
          constructor
          · intro inRest
            rcases List.mem_cons.mp ((sameMembers entry).mp (List.mem_cons_of_mem _ inRest))
              with isHead | inOthers
            · subst isHead
              exact absurd (beforeHead entry inRest) (irreflexive entry)
            · exact inOthers
          · intro inOthers
            rcases List.mem_cons.mp ((sameMembers entry).mpr (List.mem_cons_of_mem _ inOthers))
              with isHead | inRest
            · subst isHead
              exact absurd (beforeOther entry inOthers) (irreflexive entry)
            · exact inRest

/-- Maps with the same look-ups are equal. -/
theorem ext_get?
    {first second : SortedMap κ α}
    (sameLookups : ∀ key, first.get? key = second.get? key) :
    first = second := by
  obtain ⟨firstEntries, firstSorted⟩ := first
  obtain ⟨secondEntries, secondSorted⟩ := second
  have sameEntries : firstEntries = secondEntries := by
    apply eq_of_mem_iff firstSorted secondSorted
    rintro ⟨key, value⟩
    have sameLookup := sameLookups key
    rw [← lookupEntry_eq_some_iff firstSorted, ← lookupEntry_eq_some_iff secondSorted]
    rw [get?, get?] at sameLookup
    rw [sameLookup]
  subst sameEntries
  rfl

/-- Erasing a key that was just inserted leaves the map of before if the key was new. -/
theorem erase_insert
    {map : SortedMap κ α}
    {key : κ}
    (isNew : map.contains key = false)
    (value : α) :
    (map.insert key value).erase key = map := by
  apply ext_get?
  intro other
  by_cases same : other = key
  · rw [same, get?_erase_self]
    exact (Option.not_isSome_iff_eq_none.mp (Bool.eq_false_iff.mp isNew)).symm
  · rw [get?_erase_of_ne _ same, get?_insert_of_ne _ same]

/-- After an insertion the inserted key is there and those that were. -/
@[simp]
theorem contains_insert
    {map : SortedMap κ α}
    {key other : κ}
    {value : α} :
    (map.insert key value).contains other = true ↔ other = key ∨ map.contains other = true := by
  rw [contains, contains]
  by_cases same : other = key
  · rw [same, get?_insert_self]
    simp
  · rw [get?_insert_of_ne _ same]
    simp [same]

/-- Pairs with different keys are found after insertion, and the other keys keep their values. -/
theorem get?_insertAll
    {pairs : List (κ × α)}
    (sorted : Ascending pairs)
    (map : SortedMap κ α)
    (key : κ) :
    (map.insertAll pairs).get? key = (lookupEntry key pairs).or (map.get? key) := by
  induction pairs generalizing map with
  | nil => rfl
  | cons first rest inductionHypothesis =>
      obtain ⟨stored, value⟩ := first
      obtain ⟨before, sortedRest⟩ := List.pairwise_cons.mp sorted
      change ((map.insert stored value).insertAll rest).get? key = _
      rw [inductionHypothesis sortedRest, lookupEntry]
      by_cases same : key = stored
      · subst same
        have notInRest : lookupEntry key rest = none := by
          cases found : lookupEntry key rest with
          | none => rfl
          | some other =>
              have ordered := before _ ((lookupEntry_eq_some_iff sortedRest).mp found)
              rw [Std.ReflOrd.compare_self] at ordered
              contradiction
        rw [notInRest, get?_insert_self, if_pos Std.ReflOrd.compare_self]
        rfl
      · rw [get?_insert_of_ne _ same, if_neg (compare_ne same)]

/-- After insertion from left to right a key has the value of its last pair. -/
theorem get?_insertAll_eq_lookup
    [BEq κ] [LawfulBEq κ]
    (pairs : List (κ × α))
    (map : SortedMap κ α)
    (key : κ) :
    (map.insertAll pairs).get? key = (pairs.reverse.lookup key).or (map.get? key) := by
  induction pairs generalizing map with
  | nil => rfl
  | cons first rest inductionHypothesis =>
      obtain ⟨stored, value⟩ := first
      change ((map.insert stored value).insertAll rest).get? key = _
      rw [inductionHypothesis, List.reverse_cons, List.lookup_append, Option.or_assoc]
      by_cases same : key = stored
      · rw [same, get?_insert_self, List.lookup_cons_self]
        rfl
      · rw [get?_insert_of_ne _ same, List.lookup_cons, beq_false_of_ne same]
        rfl

/-- The map of a list of pairs gives each key the value of its last pair. -/
theorem get?_ofList
    [BEq κ] [LawfulBEq κ]
    (pairs : List (κ × α))
    (key : κ) :
    (ofList pairs).get? key = pairs.reverse.lookup key := by
  rw [ofList, get?_insertAll_eq_lookup]
  exact Option.or_none

/-- The map of the entries of a map is the map. -/
@[simp]
theorem ofList_entries (map : SortedMap κ α) : ofList map.entries = map := by
  apply ext_get?
  intro key
  rw [ofList, get?_insertAll map.ascending]
  exact Option.or_none

/-- The last pair of a key in a list is its last pair among the entries of the list's map. -/
theorem lookup_entries_ofList
    [BEq κ] [LawfulBEq κ]
    (pairs : List (κ × α))
    (key : κ) :
    (ofList pairs).entries.reverse.lookup key = pairs.reverse.lookup key := by
  rw [← get?_ofList, ofList_entries, get?_ofList]

/-- If no key repeats, a look-up finds exactly the pairs of a list. -/
theorem lookup_eq_some_iff_mem
    [BEq κ] [LawfulBEq κ]
    {pairs : List (κ × α)}
    (distinct : (pairs.map Prod.fst).Nodup)
    {key : κ}
    {value : α} :
    pairs.lookup key = some value ↔ (key, value) ∈ pairs := by
  induction pairs with
  | nil => simp
  | cons first rest inductionHypothesis =>
      obtain ⟨stored, old⟩ := first
      obtain ⟨isNew, restDistinct⟩ := List.nodup_cons.mp distinct
      rw [List.lookup_cons]
      by_cases same : key = stored
      · subst same
        have notInRest : (key, value) ∉ rest :=
          fun member => isNew (List.mem_map.mpr ⟨(key, value), member, rfl⟩)
        simp [notInRest, eq_comm]
      · simp [beq_false_of_ne same, same, inductionHypothesis restDistinct]

/-- If no key repeats, the map of a list has the pairs of the list as its entries. -/
theorem mem_entries_ofList_iff
    [BEq κ] [LawfulBEq κ]
    {pairs : List (κ × α)}
    (distinct : (pairs.map Prod.fst).Nodup)
    {entry : κ × α} :
    entry ∈ (ofList pairs).entries ↔ entry ∈ pairs := by
  have reversedDistinct : (pairs.reverse.map Prod.fst).Nodup := by
    rw [List.map_reverse]
    exact (List.reverse_perm _).nodup_iff.mpr distinct
  obtain ⟨key, value⟩ := entry
  rw [← get?_eq_some_iff, get?_ofList, lookup_eq_some_iff_mem reversedDistinct, List.mem_reverse]

end SortedMap

namespace SortedSet

variable [Ord κ] [Std.LawfulEqOrd κ]

/-- The members that are kept are those that the test accepts. -/
@[simp]
theorem contains_keep
    (set : SortedSet κ)
    (test : κ → Bool)
    (member : κ) :
    (set.keep test).contains member = (set.contains member && test member) := by
  rw [SortedMap.contains, SortedMap.contains, keep, SortedMap.get?_filter]
  cases set.get? member with
  | none => rfl
  | some _ => cases test member <;> simp

/-- The members of the set of a list are those of the list. -/
@[simp]
theorem contains_ofList
    [Std.TransOrd κ] [BEq κ] [LawfulBEq κ]
    (members : List κ)
    (member : κ) :
    (ofList members).contains member = true ↔ member ∈ members := by
  rw [SortedMap.contains, ofList, SortedMap.get?_ofList, List.lookup_isSome_iff]
  simp

/-- Sets with the same members are equal. -/
theorem ext_contains
    [Std.TransOrd κ]
    {first second : SortedSet κ}
    (sameMembers : ∀ member, first.contains member = true ↔ second.contains member = true) :
    first = second := by
  apply SortedMap.ext_get?
  intro member
  have same := sameMembers member
  rw [SortedMap.contains, SortedMap.contains] at same
  cases inFirst : first.get? member <;> cases inSecond : second.get? member <;>
    simp_all

/-- No member is listed twice. -/
theorem nodup_toList (set : SortedSet κ) : set.toList.Nodup :=
  set.nodup_keys

end SortedSet

end SplitTunnel
