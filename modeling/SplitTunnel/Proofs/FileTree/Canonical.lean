import SplitTunnel.Proofs.FileTree.Steps

namespace SplitTunnel

/-!
# Canonical locations

There are no links, so the location of a path can be read off its text: a name
leads down and a step up leads back.  A path that can be followed leads there in
any tree, and an operation on a path that succeeds is about the entry there.
-/

namespace Path

/-- The location that segments lead to from a start, going down by names and back by steps up. -/
def resolve (start : Location) (segments : List String) : Location :=
  segments.foldl
    (fun location segment =>
      if isNoise segment then
        location
      else if segment = ".." then
        location.tail
      else
        segment :: location)
    start

/-- The location that a path spells, whatever stands there. -/
def canonical (path : Path) : Location :=
  resolve [] path.segments

theorem resolve_append
    (start : Location)
    (first second : List String) :
    resolve start (first ++ second) = resolve (resolve start first) second :=
  List.foldl_append

theorem resolve_name
    {name : String}
    (noNoise : isNoise name = false)
    (noStep : name ≠ "..")
    (start : Location) :
    resolve start [name] = name :: start := by
  simp [resolve, noNoise, noStep]

theorem resolve_noise
    {segments : List String}
    (allNoise : ∀ segment ∈ segments, isNoise segment = true)
    (start : Location) :
    resolve start segments = start := by
  induction segments with
  | nil => rfl
  | cons segment rest inductionHypothesis =>
      have stays : resolve start [segment] = start := by
        simp [resolve, allNoise segment (List.mem_cons_self ..)]
      rw [← List.singleton_append, resolve_append, stays]
      exact inductionHypothesis fun other member =>
        allNoise other (List.mem_cons_of_mem _ member)

/-- Segments that never step up lead to the names among them. -/
theorem resolve_eq_lead
    {segments : List String}
    (noStep : ".." ∉ segments)
    (start : Location) :
    resolve start segments = lead start segments := by
  induction segments generalizing start with
  | nil => rfl
  | cons segment rest inductionHypothesis =>
      obtain ⟨segmentStays, restStays⟩ := List.ne_and_not_mem_of_not_mem_cons noStep
      rw [← List.singleton_append, resolve_append, lead_append, inductionHypothesis restStays]
      simp [resolve, lead, segmentStays.symm]

theorem Names.canonical_eq
    {path : Path}
    {directory : Location}
    {name : String}
    (names : Names path directory name) :
    path.canonical = name :: directory := by
  obtain ⟨before, segmentsShape, noStep, leads, noNoise, isName⟩ := names
  rw [canonical, segmentsShape, resolve_append, resolve_eq_lead noStep, leads,
    resolve_name noNoise isName]

/-- A step up never leads where a name does. -/
theorem tail_ne_cons
    (location : Location)
    (name : String) :
    location.tail ≠ name :: location := by
  intro same
  have sameLength := congrArg List.length same
  rw [List.length_tail, List.length_cons] at sameLength
  omega

/-- Paths that end in different names after the same segments lead to different locations. -/
theorem canonical_ne
    {path other : Path}
    {before : List String}
    {name otherName : String}
    (shape : path.segments = before ++ [name])
    (otherShape : other.segments = before ++ [otherName])
    (noNoise : isNoise name = false)
    (otherNoNoise : isNoise otherName = false)
    (different : name ≠ otherName) :
    path.canonical ≠ other.canonical := by
  rw [canonical, canonical, shape, otherShape, resolve_append, resolve_append]
  by_cases isStep : name = ".."
  · subst isStep
    rw [resolve_name otherNoNoise different.symm]
    exact tail_ne_cons _ _
  · rw [resolve_name noNoise isStep]
    by_cases otherIsStep : otherName = ".."
    · subst otherIsStep
      exact (tail_ne_cons _ _).symm
    · rw [resolve_name otherNoNoise otherIsStep]
      simpa using different

end Path

namespace FileTree

open SplitTunnel.Path (isNoise isTooLong resolve)

variable {tree next : FileTree} {start location reached : Location} {path : Path}
variable {segments : List String} {content : List UInt8} {place : Place}

section Locations

theorem resolve_of_follow
    {segment : String}
    (followed : follow start segment = .ok reached) :
    resolve start [segment] = reached := by
  rw [follow] at followed
  split at followed
  · rename_i noise
    cases followed
    simp [resolve, noise]
  · rename_i noNoise
    split at followed
    · rename_i isStep
      cases followed
      rw [isStep] at noNoise ⊢
      simp [resolve, noNoise]
    · rename_i noStep
      split at followed
      · contradiction
      · cases followed
        exact Path.resolve_name (by simpa using noNoise) noStep start

/-- Segments that can be followed lead where they spell. -/
theorem resolve_of_walk
    (walked : tree.walk start segments = .ok reached) :
    resolve start segments = reached := by
  induction segments generalizing start with
  | nil =>
      cases walked
      rfl
  | cons segment rest inductionHypothesis =>
      rw [walk_cons] at walked
      obtain ⟨_, _, walked⟩ := bind_eq_ok walked
      obtain ⟨between, followed, walked⟩ := bind_eq_ok walked
      rw [← List.singleton_append, Path.resolve_append, resolve_of_follow followed]
      exact inductionHypothesis walked

/-- A path that can be resolved has its canonical location. -/
theorem canonical_of_locate
    (located : tree.locate path = .ok location) :
    path.canonical = location := by
  obtain ⟨segments, checked, walked⟩ := bind_eq_ok located
  rw [Path.segments_of_checked checked] at walked
  exact resolve_of_walk walked

theorem approach_eq_ok_iff :
    tree.approach start segments = .ok reached ↔
      tree.walk start segments = .ok reached ∧ tree.get? reached = some .directory := by
  constructor
  · intro arrives
    obtain ⟨location, walked, required⟩ := bind_eq_ok arrives
    obtain ⟨_, isThere, rfl⟩ := map_eq_ok required
    exact ⟨walked, requireDirectory_eq_ok.mp isThere⟩
  · rintro ⟨walked, isThere⟩
    rw [approach, walked]
    change (tree.requireDirectory reached).map _ = _
    rw [requireDirectory_eq_ok.mpr isThere]
    rfl

end Locations

section Places

/-- Segments end in a name and in the empty segments of slashes after it. -/
theorem exists_trailing
    {name : String}
    {reversed : List String}
    (dropped : segments.reverse.dropWhile (fun segment => segment == "") = name :: reversed) :
    name ≠ "" ∧
      ∃ trailing,
        segments = reversed.reverse ++ name :: trailing ∧
          (∀ segment ∈ trailing, segment = "") ∧
          (segments.getLast? ≠ some "" → trailing = []) := by
  have shape : segments.reverse.takeWhile (fun segment => segment == "") ++ name :: reversed =
      segments.reverse := by
    rw [← dropped]
    exact List.takeWhile_append_dropWhile
  have hasName : name ≠ "" := by
    have notEmpty := List.head?_dropWhile_not (fun segment => segment == "") segments.reverse
    simpa [dropped] using notEmpty
  have allEmpty : ∀ segment ∈ segments.reverse.takeWhile (fun segment => segment == ""),
      segment = "" :=
    fun segment member => by simpa using List.mem_takeWhile_imp member
  refine ⟨hasName, (segments.reverse.takeWhile (fun segment => segment == "")).reverse, ?_, ?_, ?_⟩
  · have segmentsShape := congrArg List.reverse shape
    simpa using segmentsShape.symm
  · exact fun segment member => allEmpty segment (List.mem_reverse.mp member)
  · intro noSlash
    cases taken : segments.reverse.takeWhile (fun segment => segment == "") with
    | nil => rfl
    | cons first more =>
        rw [taken] at shape allEmpty
        have isLast : segments.getLast? = some first := by
          rw [List.getLast?_eq_head?_reverse, ← shape]
          rfl
        rw [allEmpty first (List.mem_cons_self ..)] at isLast
        exact absurd isLast noSlash

/-- A place stands at the end of segments, with nothing but slashes after its name. -/
theorem place?_eq_some
    (placed : tree.place? segments = .ok (some place)) :
    ∃ before trailing,
      segments = before ++ place.name :: trailing ∧
        (∀ segment ∈ trailing, isNoise segment = true) ∧
        isNoise place.name = false ∧
        place.name ≠ ".." ∧
        tree.approach [] before = .ok place.parent ∧
        (place.slashFollows = false → trailing = []) := by
  rw [place?] at placed
  split at placed
  · cases placed
  · rename_i name reversed dropped
    obtain ⟨hasName, trailing, segmentsShape, allEmpty, noTrailing⟩ := exists_trailing dropped
    cases walked : tree.walk [] reversed.reverse with
    | error fault =>
        rw [walked] at placed
        contradiction
    | ok parent =>
        rw [walked] at placed
        obtain ⟨_, required, isPlace⟩ := map_eq_ok placed
        split at isPlace
        · contradiction
        · rename_i noDots
          cases isPlace
          have isThere := requireDirectory_eq_ok.mp required
          have noDot : name ≠ "." := fun isDot => noDots (Or.inl isDot)
          refine ⟨reversed.reverse, trailing, segmentsShape, ?_, ?_, ?_, ?_, ?_⟩
          · intro segment member
            rw [allEmpty segment member]
            rfl
          · simp [isNoise, hasName, noDot]
          · exact fun isStep => noDots (Or.inr isStep)
          · exact approach_eq_ok_iff.mpr ⟨walked, isThere⟩
          · intro noSlash
            exact noTrailing (by simpa using noSlash)

theorem location_of_place
    (located : place.location = .ok location) :
    isTooLong place.name = false ∧ location = place.name :: place.parent := by
  rw [Place.location] at located
  split at located
  · contradiction
  · rename_i isShort
    cases located
    exact ⟨by simpa [isTooLong] using isShort, rfl⟩

/-- Segments lead to the place at their end; after a slash there must be a directory. -/
theorem walk_of_place
    (placed : tree.place? segments = .ok (some place))
    (located : place.location = .ok location)
    (isOpen : place.slashFollows = false ∨ tree.get? location = some .directory) :
    tree.walk [] segments = .ok location := by
  obtain ⟨before, trailing, rfl, allNoise, noNoise, noStep, arrives, noTrailing⟩ :=
    place?_eq_some placed
  obtain ⟨isShort, rfl⟩ := location_of_place located
  obtain ⟨walked, isThere⟩ := approach_eq_ok_iff.mp arrives
  have trailed : tree.walk (place.name :: place.parent) trailing =
      .ok (place.name :: place.parent) := by
    rcases isOpen with noSlash | isDirectory
    · rw [noTrailing noSlash]
      rfl
    · have allShort : trailing.any isTooLong = false :=
        List.any_eq_false.mpr fun segment member =>
          Bool.eq_false_iff.mp (Path.isTooLong_noise (allNoise segment member))
      have leads := Path.lead_noise allNoise (place.name :: place.parent)
      rw [walk_of_directory (not_mem_of_noise allNoise) (by rw [leads]; exact isDirectory),
        allShort, leads]
      rfl
  rw [walk_append, walked]
  change tree.walk place.parent (place.name :: trailing) = _
  rw [walk_cons, requireDirectory_eq_ok.mpr isThere]
  change (follow place.parent place.name).bind _ = _
  rw [follow_name noNoise noStep, isShort]
  exact trailed

/-- The location of a place is the one that its segments spell. -/
theorem resolve_of_place
    (placed : tree.place? segments = .ok (some place)) :
    resolve [] segments = place.name :: place.parent := by
  obtain ⟨before, trailing, rfl, allNoise, noNoise, noStep, arrives, _⟩ := place?_eq_some placed
  obtain ⟨walked, _⟩ := approach_eq_ok_iff.mp arrives
  rw [← List.singleton_append, Path.resolve_append, Path.resolve_append,
    resolve_of_walk walked, Path.resolve_name noNoise noStep, Path.resolve_noise allNoise]

end Places

section Operations

/-- A path ends in a name with no slash after it, for a location in a directory that is there. -/
def Points (tree : FileTree) (path : Path) (location : Location) : Prop :=
  ∃ place,
    path.checked = .ok path.segments ∧
      tree.place? path.segments = .ok (some place) ∧
      place.slashFollows = false ∧
      place.location = .ok location

/-- A path that points to a location is resolved to it. -/
theorem Points.locate_eq
    (points : Points tree path location) :
    tree.locate path = .ok location := by
  obtain ⟨place, checked, placed, noSlash, located⟩ := points
  rw [locate, checked]
  exact walk_of_place placed located (Or.inl noSlash)

theorem Points.canonical_eq
    (points : Points tree path location) :
    path.canonical = location :=
  canonical_of_locate points.locate_eq

/-- A path points to a name in a directory. -/
theorem Points.inDirectory
    (points : Points tree path location) :
    ∃ name directory,
      location = name :: directory ∧ tree.get? directory = some .directory := by
  obtain ⟨place, _, placed, _, located⟩ := points
  obtain ⟨_, _, _, _, _, _, arrives, _⟩ := place?_eq_some placed
  obtain ⟨_, isThere⟩ := approach_eq_ok_iff.mp arrives
  exact ⟨place.name, place.parent, (location_of_place located).2, isThere⟩

/-- What is found at the end of a path is found at the end of its segments. -/
theorem place_of_checked
    {found? : Option Place}
    (placed : path.checked.bind tree.place? = .ok found?) :
    path.checked = .ok path.segments ∧ tree.place? path.segments = .ok found? := by
  obtain ⟨segments, checked, placed⟩ := bind_eq_ok placed
  have sameSegments := Path.segments_of_checked checked
  subst sameSegments
  exact ⟨checked, placed⟩

/-- A file can be written where a path points to and no directory stands. -/
theorem writable_eq_ok_iff_points :
    tree.writable path = .ok location ↔
      Points tree path location ∧ tree.get? location ≠ some .directory := by
  constructor
  · intro allowed
    obtain ⟨place?, placed, allowed⟩ := bind_eq_ok allowed
    obtain ⟨checked, isPlace⟩ := place_of_checked placed
    split at allowed
    · contradiction
    · rename_i place
      split at allowed
      · contradiction
      · rename_i noSlash
        obtain ⟨reached, located, allowed⟩ := bind_eq_ok allowed
        split at allowed
        · contradiction
        · rename_i notDirectory
          cases allowed
          refine ⟨⟨place, checked, isPlace, by simpa using noSlash, located⟩, ?_⟩
          exact fun isThere => notDirectory (isDirectory_iff.mpr isThere)
  · rintro ⟨⟨place, checked, placed, noSlash, located⟩, isFree⟩
    rw [writable, checked]
    change (tree.place? path.segments).bind _ = _
    rw [placed]
    change (if place.slashFollows = true then _ else place.location.bind _) = _
    rw [noSlash, located]
    change (if tree.isDirectory location = true then _ else _) = _
    rw [if_neg (fun isThere => isFree (isDirectory_iff.mp isThere))]

/-- A file that is opened is there afterwards, as it was or empty. -/
theorem touch_eq_ok
    (touched : tree.touch path = .ok next) :
    ∃ location,
      Points tree path location ∧
        tree.get? location ≠ some .directory ∧
        next = if (tree.get? location).isNone then tree.putFile location [] else tree := by
  obtain ⟨location, allowed, rfl⟩ := map_eq_ok touched
  obtain ⟨points, isFree⟩ := writable_eq_ok_iff_points.mp allowed
  exact ⟨location, points, isFree, rfl⟩

/-- A file that is stored has its new content. -/
theorem storeFile_eq_ok
    (stored : tree.storeFile path content = .ok next) :
    ∃ location,
      Points tree path location ∧
        tree.get? location ≠ some .directory ∧
        next = tree.putFile location content := by
  obtain ⟨location, allowed, rfl⟩ := map_eq_ok stored
  obtain ⟨points, isFree⟩ := writable_eq_ok_iff_points.mp allowed
  exact ⟨location, points, isFree, rfl⟩

/-- A file that is removed was a file that its path pointed to. -/
theorem unlink_eq_ok
    (removed : tree.unlink path = .ok next) :
    ∃ location, Points tree path location ∧ next = tree.eraseFile location := by
  obtain ⟨place?, placed, removed⟩ := bind_eq_ok removed
  obtain ⟨checked, isPlace⟩ := place_of_checked placed
  split at removed
  · contradiction
  · rename_i place
    obtain ⟨location, located, removed⟩ := bind_eq_ok removed
    split at removed
    · contradiction
    · contradiction
    · split at removed
      · contradiction
      · rename_i noSlash
        cases removed
        exact ⟨location, ⟨place, checked, isPlace, by simpa using noSlash, located⟩, rfl⟩

/-- A file that is moved leaves its location and is found at the other. -/
theorem moveFile_eq_ok
    {source target : Path}
    (moved : tree.moveFile source target = .ok next) :
    ∃ old new content,
      Points tree source old ∧
        Points tree target new ∧
        tree.get? old = some (.file content) ∧
        (new = old ∧ next = tree ∨
          new ≠ old ∧
            tree.get? new ≠ some .directory ∧
            next = (tree.eraseFile old).putFile new content) := by
  obtain ⟨source?, sourcePlaced, moved⟩ := bind_eq_ok moved
  obtain ⟨target?, targetPlaced, moved⟩ := bind_eq_ok moved
  obtain ⟨sourceChecked, sourceIs⟩ := place_of_checked sourcePlaced
  obtain ⟨targetChecked, targetIs⟩ := place_of_checked targetPlaced
  split at moved
  · rename_i sourcePlace targetPlace _
    obtain ⟨old, oldLocated, moved⟩ := bind_eq_ok moved
    split at moved
    · contradiction
    · contradiction
    · rename_i content stored
      obtain ⟨new, newLocated, moved⟩ := bind_eq_ok moved
      split at moved
      · contradiction
      · rename_i noSlash
        obtain ⟨sourceNoSlash, targetNoSlash⟩ := not_or.mp noSlash
        have sourcePoints : Points tree source old :=
          ⟨sourcePlace, sourceChecked, sourceIs, by simpa using sourceNoSlash, oldLocated⟩
        have targetPoints : Points tree target new :=
          ⟨targetPlace, targetChecked, targetIs, by simpa using targetNoSlash, newLocated⟩
        refine ⟨old, new, content, sourcePoints, targetPoints, stored, ?_⟩
        split at moved
        · contradiction
        · split at moved
          · rename_i same
            cases moved
            exact Or.inl ⟨same, rfl⟩
          · rename_i different
            split at moved
            · contradiction
            · rename_i notDirectory
              cases moved
              exact Or.inr
                ⟨different, fun isThere => notDirectory (isDirectory_iff.mpr isThere), rfl⟩
  · contradiction

/-- The content of a file is read at the location that a path points to. -/
theorem Points.fileContent_eq
    (points : Points tree path location)
    (stored : tree.get? location = some (.file content)) :
    tree.fileContent path = .ok content := by
  rw [fileContent, find, points.locate_eq]
  simp only [Except.bind, stored]

/-- Something stands at the end of a path if it stands at the location that it points to. -/
theorem Points.isPresent_eq
    (points : Points tree path location) :
    tree.isPresent path = (tree.get? location).isSome := by
  rw [isPresent, find, points.locate_eq]
  simp only [Except.bind]
  cases tree.get? location <;> rfl

/-- A file that a path points to is removed. -/
theorem Points.unlink_eq
    (points : Points tree path location)
    (stored : tree.get? location = some (.file content)) :
    tree.unlink path = .ok (tree.eraseFile location) := by
  obtain ⟨place, checked, placed, noSlash, located⟩ := points
  rw [unlink, checked]
  simp only [Except.bind, placed, located, stored, noSlash, Bool.false_eq_true, ↓reduceIte]

end Operations

end FileTree

end SplitTunnel
