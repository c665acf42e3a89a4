namespace SplitTunnel

/-!
# Maps listed in ascending key order

Rule mappings, app selections and file trees are finite maps whose entries are
always shown in ascending key order.  A map is the list of its entries with a
proof that the keys ascend strictly, so no key repeats and two maps with the
same look-ups are the same map.
-/

/-- The keys of an entry list ascend strictly. -/
def Ascending [Ord κ] (entries : List (κ × α)) : Prop :=
  entries.Pairwise fun first second => compare first.1 second.1 = .lt

/-- A finite map, kept as its entries in strictly ascending key order. -/
structure SortedMap (κ : Type) (α : Type) [Ord κ] where
  entries : List (κ × α)
  ascending : Ascending entries

namespace SortedMap

section Entries

variable [Ord κ]

/-- The value stored under a key in an entry list. -/
def lookupEntry (key : κ) : List (κ × α) → Option α
  | [] => none
  | (stored, value) :: rest =>
      if compare key stored = .eq then
        some value
      else
        lookupEntry key rest

/-- Put an entry in its place, replacing an entry with the same key. -/
def insertEntry (key : κ) (value : α) : List (κ × α) → List (κ × α)
  | [] => [(key, value)]
  | (stored, old) :: rest =>
      match compare key stored with
      | .lt => (key, value) :: (stored, old) :: rest
      | .eq => (key, value) :: rest
      | .gt => (stored, old) :: insertEntry key value rest

/-- An entry after insertion is the inserted one or was there before. -/
theorem mem_insertEntry
    {key : κ}
    {value : α}
    {entries : List (κ × α)}
    {entry : κ × α}
    (member : entry ∈ insertEntry key value entries) :
    entry = (key, value) ∨ entry ∈ entries := by
  induction entries with
  | nil => simpa [insertEntry] using member
  | cons first rest inductionHypothesis =>
      obtain ⟨stored, old⟩ := first
      rw [insertEntry] at member
      split at member <;> simp only [List.mem_cons] at member ⊢
      · exact member
      · rcases member with isNew | inRest
        · exact Or.inl isNew
        · exact Or.inr (Or.inr inRest)
      · rcases member with isFirst | inRest
        · exact Or.inr (Or.inl isFirst)
        · rcases inductionHypothesis inRest with isNew | inOld
          · exact Or.inl isNew
          · exact Or.inr (Or.inr inOld)

/-- Insertion keeps the keys ascending. -/
theorem ascending_insertEntry
    [Std.TransOrd κ] [Std.LawfulEqOrd κ]
    (key : κ)
    (value : α)
    {entries : List (κ × α)}
    (sorted : Ascending entries) :
    Ascending (insertEntry key value entries) := by
  induction entries with
  | nil => simp [insertEntry, Ascending]
  | cons first rest inductionHypothesis =>
      obtain ⟨stored, old⟩ := first
      obtain ⟨before, sortedRest⟩ := List.pairwise_cons.mp sorted
      rw [insertEntry]
      split
      · rename_i isLess
        refine List.pairwise_cons.mpr ⟨?_, sorted⟩
        intro entry member
        rcases List.mem_cons.mp member with rfl | inRest
        · exact isLess
        · exact Std.TransCmp.lt_trans isLess (before entry inRest)
      · rename_i isSame
        have sameKey : key = stored := Std.LawfulEqOrd.eq_of_compare isSame
        subst sameKey
        exact List.pairwise_cons.mpr ⟨before, sortedRest⟩
      · rename_i isGreater
        refine List.pairwise_cons.mpr ⟨?_, inductionHypothesis sortedRest⟩
        intro entry member
        rcases mem_insertEntry member with rfl | inRest
        · exact Std.OrientedCmp.lt_of_gt isGreater
        · exact before entry inRest

end Entries

section Operations

variable [Ord κ]

instance [DecidableEq κ] [DecidableEq α] : DecidableEq (SortedMap κ α) :=
  fun first second =>
    if same : first.entries = second.entries then
      .isTrue (by
        cases first
        cases second
        cases same
        rfl)
    else
      .isFalse fun equal => same (congrArg entries equal)

instance [Repr κ] [Repr α] : Repr (SortedMap κ α) where
  reprPrec map precedence := reprPrec map.entries precedence

/-- The map without entries. -/
def empty : SortedMap κ α where
  entries := []
  ascending := List.Pairwise.nil

instance : EmptyCollection (SortedMap κ α) where
  emptyCollection := empty

instance : Inhabited (SortedMap κ α) where
  default := empty

/-- The value stored under a key. -/
def get? (map : SortedMap κ α) (key : κ) : Option α :=
  lookupEntry key map.entries

/-- Whether a key has a value. -/
def contains (map : SortedMap κ α) (key : κ) : Bool :=
  (map.get? key).isSome

/-- The keys in ascending order. -/
def keys (map : SortedMap κ α) : List κ :=
  map.entries.map Prod.fst

/-- The number of keys. -/
def size (map : SortedMap κ α) : Nat :=
  map.entries.length

/-- Whether the map has no key. -/
def isEmpty (map : SortedMap κ α) : Bool :=
  map.entries.isEmpty

/-- Store a value under a key, replacing the value stored before. -/
def insert
    [Std.TransOrd κ] [Std.LawfulEqOrd κ]
    (map : SortedMap κ α)
    (key : κ)
    (value : α) :
    SortedMap κ α where
  entries := insertEntry key value map.entries
  ascending := ascending_insertEntry key value map.ascending

/-- Keep the entries that a test accepts. -/
def filter
    (map : SortedMap κ α)
    (keep : κ → α → Bool) :
    SortedMap κ α where
  entries := map.entries.filter fun entry => keep entry.1 entry.2
  ascending := List.Pairwise.filter _ map.ascending

/-- Forget a key. -/
def erase (map : SortedMap κ α) (key : κ) : SortedMap κ α :=
  map.filter fun stored _ => compare key stored != .eq

/-- Change the values, dropping the entries whose value becomes `none`. -/
def filterMap
    (map : SortedMap κ α)
    (change : κ → α → Option β) :
    SortedMap κ β where
  entries := map.entries.filterMap fun entry =>
    (change entry.1 entry.2).map fun value => (entry.1, value)
  ascending := by
    refine List.Pairwise.filterMap _ ?_ map.ascending
    intro first second ordered firstImage isFirst secondImage isSecond
    obtain ⟨firstValue, _, rfl⟩ := Option.map_eq_some_iff.mp isFirst
    obtain ⟨secondValue, _, rfl⟩ := Option.map_eq_some_iff.mp isSecond
    exact ordered

/-- Insert the pairs of a list from left to right, so a later pair wins. -/
def insertAll
    [Std.TransOrd κ] [Std.LawfulEqOrd κ]
    (map : SortedMap κ α)
    (pairs : List (κ × α)) :
    SortedMap κ α :=
  pairs.foldl (fun built pair => built.insert pair.1 pair.2) map

/-- The map of a list of pairs, in which a later pair wins. -/
def ofList
    [Std.TransOrd κ] [Std.LawfulEqOrd κ]
    (pairs : List (κ × α)) :
    SortedMap κ α :=
  empty.insertAll pairs

end Operations

end SortedMap

/-- A finite set, listed in ascending order. -/
abbrev SortedSet (κ : Type) [Ord κ] :=
  SortedMap κ Unit

namespace SortedSet

variable [Ord κ]

/-- The members in ascending order. -/
def toList (set : SortedSet κ) : List κ :=
  set.keys

/-- The set of the members of a list. -/
def ofList
    [Std.TransOrd κ] [Std.LawfulEqOrd κ]
    (members : List κ) :
    SortedSet κ :=
  SortedMap.ofList (members.map fun member => (member, ()))

/-- Keep the members that a test accepts. -/
def keep (set : SortedSet κ) (test : κ → Bool) : SortedSet κ :=
  set.filter fun member _ => test member

end SortedSet

end SplitTunnel
