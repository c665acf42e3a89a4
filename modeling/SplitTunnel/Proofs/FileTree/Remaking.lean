import SplitTunnel.Proofs.FileTree.Canonical

namespace SplitTunnel

/-!
# What is there is not made again

Making directories and opening a file add entries and take none away, and no
operation takes a directory away.  So a path that could be followed can still be
followed, and a directory that was made, or a file that was opened, is found and
left alone by whoever asks for it again.
-/

namespace FileTree

variable {tree middle next : FileTree} {start location reached : Location} {path : Path}
variable {segments : List String} {content : List UInt8}

/-- Every directory stays one. -/
def KeepsDirectories (tree next : FileTree) : Prop :=
  ∀ place, tree.get? place = some .directory → next.get? place = some .directory

/-- Every entry stays as it is. -/
def Extends (tree next : FileTree) : Prop :=
  ∀ place entry, tree.get? place = some entry → next.get? place = some entry

section Keeping

theorem KeepsDirectories.trans
    (first : KeepsDirectories tree middle)
    (second : KeepsDirectories middle next) :
    KeepsDirectories tree next :=
  fun place found => second place (first place found)

/-- No file is written in place of a directory. -/
theorem keepsDirectories_putFile
    (tree : FileTree)
    (location : Location)
    (content : List UInt8) :
    KeepsDirectories tree (tree.putFile location content) := by
  intro place found
  by_cases isHere : place = location
  · subst isHere
    cases place with
    | nil => rfl
    | cons name parent =>
        rw [putFile, dif_neg (fun allowed => allowed.2 found)]
        exact found
  · rw [get?_putFile_of_ne isHere]
    exact found

/-- No directory is removed as a file. -/
theorem keepsDirectories_eraseFile
    (tree : FileTree)
    (location : Location) :
    KeepsDirectories tree (tree.eraseFile location) := by
  intro place found
  by_cases isHere : place = location
  · subst isHere
    cases place with
    | nil => rfl
    | cons name parent =>
        rw [eraseFile, dif_neg (fun isFile => isFile found)]
        exact found
  · rw [get?_eraseFile_of_ne isHere]
    exact found

/-- What could be followed can still be followed, to the same location. -/
theorem KeepsDirectories.walk_eq
    (kept : KeepsDirectories tree next)
    (walked : tree.walk start segments = .ok reached) :
    next.walk start segments = .ok reached := by
  induction segments generalizing start with
  | nil => exact walked
  | cons segment rest inductionHypothesis =>
      rw [walk_cons] at walked ⊢
      obtain ⟨_, required, walked⟩ := bind_eq_ok walked
      obtain ⟨between, followed, walked⟩ := bind_eq_ok walked
      have isThere := kept start (requireDirectory_eq_ok.mp required)
      rw [requireDirectory_eq_ok.mpr isThere, followed]
      exact inductionHypothesis walked

/-- A directory that could be approached can still be approached. -/
theorem KeepsDirectories.approach_eq
    (kept : KeepsDirectories tree next)
    (arrives : tree.approach start segments = .ok reached) :
    next.approach start segments = .ok reached := by
  obtain ⟨walked, isThere⟩ := approach_eq_ok_iff.mp arrives
  exact approach_eq_ok_iff.mpr ⟨kept.walk_eq walked, kept reached isThere⟩

/-- What stood at the end of segments as a place still does. -/
theorem KeepsDirectories.place?_eq
    {found? : Option Place}
    (kept : KeepsDirectories tree next)
    (placed : tree.place? segments = .ok found?) :
    next.place? segments = .ok found? := by
  rw [place?] at placed ⊢
  split at placed
  · exact placed
  · rename_i name reversed _
    cases walked : tree.walk [] reversed.reverse with
    | error fault =>
        rw [walked] at placed
        contradiction
    | ok parent =>
        rw [walked] at placed
        obtain ⟨_, required, isPlace⟩ := map_eq_ok placed
        have isThere := kept parent (requireDirectory_eq_ok.mp required)
        rw [kept.walk_eq walked]
        change (next.requireDirectory parent).map _ = _
        rw [requireDirectory_eq_ok.mpr isThere, ← isPlace]
        rfl

/-- What a path pointed to it still points to. -/
theorem KeepsDirectories.points
    (kept : KeepsDirectories tree next)
    (points : Points tree path location) :
    Points next path location := by
  obtain ⟨place, checked, placed, noSlash, located⟩ := points
  exact ⟨place, checked, kept.place?_eq placed, noSlash, located⟩

end Keeping

section Extending

theorem Extends.refl (tree : FileTree) : Extends tree tree :=
  fun _ _ found => found

theorem Extends.trans
    (first : Extends tree middle)
    (second : Extends middle next) :
    Extends tree next :=
  fun place entry found => second place entry (first place entry found)

theorem Extends.keepsDirectories
    (extended : Extends tree next) :
    KeepsDirectories tree next :=
  fun place found => extended place .directory found

/-- A directory that is made where nothing stood is one entry more. -/
theorem makeDirectory_eq_ok
    (made : tree.makeDirectory segments = .ok next) :
    ∃ place location,
      tree.place? segments = .ok (some place) ∧
        place.location = .ok location ∧
        tree.get? location = none ∧
        next = tree.addDirectory location := by
  obtain ⟨place?, placed, made⟩ := bind_eq_ok made
  split at made
  · contradiction
  · rename_i place
    obtain ⟨location, located, made⟩ := bind_eq_ok made
    split at made
    · contradiction
    · rename_i isFree
      cases made
      exact ⟨place, location, placed, located, by simpa using isFree, rfl⟩

theorem extends_addDirectory
    (isFree : tree.get? location = none) :
    Extends tree (tree.addDirectory location) := by
  intro place entry found
  have different : place ≠ location := by
    rintro rfl
    rw [isFree] at found
    contradiction
  rw [get?_addDirectory_of_ne different]
  exact found

theorem extends_ensureDirectory
    (ensured : tree.ensureDirectory segments = .ok next) :
    Extends tree next := by
  rw [ensureDirectory] at ensured
  split at ensured
  · rename_i made
    cases ensured
    obtain ⟨_, _, _, _, isFree, rfl⟩ := makeDirectory_eq_ok made
    exact extends_addDirectory isFree
  · split at ensured
    · cases ensured
      exact Extends.refl tree
    · contradiction

/-- Making a directory and those above it adds entries only, whether it succeeds or not. -/
theorem extends_ensureReversed
    (tree : FileTree)
    (reversed : List String) :
    Extends tree (tree.ensureReversed reversed).1 := by
  rw [ensureReversed.eq_def]
  split
  · exact Extends.refl tree
  · split
    · rename_i ensured
      exact extends_ensureDirectory ensured
    · split
      · exact Extends.refl tree
      · rename_i parent _
        have parentExtends := extends_ensureReversed tree parent
        split
        · rename_i made
          rw [made] at parentExtends
          exact parentExtends
        · rename_i made
          rw [made] at parentExtends
          split
          · exact parentExtends
          · rename_i ensured
            exact parentExtends.trans (extends_ensureDirectory ensured)
    · exact Extends.refl tree
termination_by reversed.length
decreasing_by exact Path.length_parentReversed?_lt (by assumption)

theorem extends_makeDirectories
    (tree : FileTree)
    (path : Path) :
    Extends tree (tree.makeDirectories path).1 := by
  rw [makeDirectories]
  split
  · exact Extends.refl tree
  · split
    · exact Extends.refl tree
    · exact extends_ensureReversed tree _

theorem extends_touch
    (touched : tree.touch path = .ok next) :
    Extends tree next := by
  obtain ⟨location, _, _, rfl⟩ := touch_eq_ok touched
  split
  · rename_i isMissing
    intro place entry found
    have different : place ≠ location := by
      rintro rfl
      simp [found] at isMissing
    rw [get?_putFile_of_ne different]
    exact found
  · exact Extends.refl tree

end Extending

section Again

theorem leadsToDirectory_iff :
    tree.leadsToDirectory segments = true ↔
      ∃ location, tree.approach [] segments = .ok location := by
  simp only [approach_eq_ok_iff, leadsToDirectory]
  cases tree.walk [] segments with
  | error fault => simp
  | ok location => simp

/-- A directory that was asked for is there. -/
theorem leadsToDirectory_of_ensureDirectory
    (ensured : tree.ensureDirectory segments = .ok next) :
    next.leadsToDirectory segments = true := by
  rw [ensureDirectory] at ensured
  split at ensured
  · rename_i made
    cases ensured
    obtain ⟨place, location, placed, located, isFree, rfl⟩ := makeDirectory_eq_ok made
    have kept := (extends_addDirectory isFree).keepsDirectories
    obtain ⟨_, _, _, _, _, _, arrives, _⟩ := place?_eq_some placed
    obtain ⟨_, isParent⟩ := approach_eq_ok_iff.mp arrives
    obtain ⟨_, rfl⟩ := location_of_place located
    have isThere := get?_addDirectory_self isParent isFree
    rw [leadsToDirectory_iff]
    exact ⟨_, approach_eq_ok_iff.mpr
      ⟨walk_of_place (kept.place?_eq placed) located (Or.inr isThere), isThere⟩⟩
  · split at ensured
    · rename_i leads
      cases ensured
      exact leads
    · contradiction

/-- A directory that is there is not made again. -/
theorem ensureDirectory_of_leadsToDirectory
    (leads : tree.leadsToDirectory segments = true) :
    tree.ensureDirectory segments = .ok tree := by
  rw [ensureDirectory]
  split
  · rename_i made
    obtain ⟨location, arrives⟩ := leadsToDirectory_iff.mp leads
    obtain ⟨walked, isThere⟩ := approach_eq_ok_iff.mp arrives
    obtain ⟨place, _, placed, located, isFree, _⟩ := makeDirectory_eq_ok made
    rw [(location_of_place located).2, ← resolve_of_place placed, resolve_of_walk walked,
      isThere] at isFree
    contradiction
  · rw [if_pos leads]

theorem leadsToDirectory_of_ensureReversed
    {reversed : List String}
    (made : tree.ensureReversed reversed = (next, .ok ()))
    (notEmpty : reversed ≠ []) :
    next.leadsToDirectory reversed.reverse = true := by
  -- However far up the making began, the last directory that it makes is this one.
  rw [ensureReversed.eq_def, if_neg notEmpty] at made
  split at made
  · rename_i ensured
    cases made
    exact leadsToDirectory_of_ensureDirectory ensured
  · split at made
    · cases made
    · split at made
      · cases made
      · split at made
        · cases made
        · rename_i ensured
          cases made
          exact leadsToDirectory_of_ensureDirectory ensured
  · cases made

/-- Directories that were made are found by whoever makes them again, and left alone. -/
theorem makeDirectories_again
    {later : FileTree}
    (made : tree.makeDirectories path = (next, .ok ()))
    (kept : KeepsDirectories next later) :
    later.makeDirectories path = (later, .ok ()) := by
  rw [makeDirectories] at made ⊢
  split at made
  · rename_i isEmpty
    rw [if_pos isEmpty]
  · rename_i notEmpty
    rw [if_neg notEmpty]
    split at made
    · cases made
    · rename_i segments checked
      by_cases noSegments : segments.reverse = []
      · rw [ensureReversed.eq_def, if_pos noSegments]
      · have leads := leadsToDirectory_of_ensureReversed made noSegments
        obtain ⟨location, arrives⟩ := leadsToDirectory_iff.mp leads
        have leadsLater := leadsToDirectory_iff.mpr ⟨location, kept.approach_eq arrives⟩
        rw [ensureReversed.eq_def, if_neg noSegments,
          ensureDirectory_of_leadsToDirectory leadsLater]

/-- A file that is there is opened as it is. -/
theorem touch_again
    (points : Points tree path location)
    (stored : tree.get? location = some (.file content)) :
    tree.touch path = .ok tree := by
  have allowed : tree.writable path = .ok location :=
    writable_eq_ok_iff_points.mpr ⟨points, by simp [stored]⟩
  rw [touch, allowed]
  simp [Except.map, stored]

end Again

end FileTree

namespace DiskStep

open FileTree (Extends KeepsDirectories)

variable {tree next : FileTree} {path : Path}

theorem extends_makeParent
    (tree : FileTree)
    (path : Path) :
    Extends tree (runAll tree (makeParent path)).1 := by
  rw [makeParent]
  split
  · exact Extends.refl tree
  · rw [runAll_singleton]
    exact FileTree.extends_makeDirectories tree _

/-- The directory of a file that was made is found by whoever makes it again. -/
theorem runAll_makeParent_again
    {later : FileTree}
    (made : runAll tree (makeParent path) = (next, .ok ()))
    (kept : KeepsDirectories next later) :
    runAll later (makeParent path) = (later, .ok ()) := by
  rw [makeParent] at made ⊢
  split at made
  · rfl
  · rename_i parent _
    obtain ⟨between, made, ended⟩ := runAll_cons_eq_ok made
    cases ended
    rw [runAll_singleton, run, FileTree.makeDirectories_again made kept]
    rfl

end DiskStep

end SplitTunnel
