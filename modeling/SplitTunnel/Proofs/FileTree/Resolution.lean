import SplitTunnel.FileTree.Access
import SplitTunnel.Proofs.FileTree.Lookup

namespace SplitTunnel

/-!
# Where a plain path leads

A path that never steps up leads to the same location in every tree: its names,
the last one innermost.  Whether it can be followed there depends on the path,
which may be too long or hold a name that is, and on a directory standing above
the last name, and on nothing else.
-/

/-- A computation that succeeds succeeds in each of its parts. -/
theorem bind_eq_ok
    {ε α β : Type}
    {first : Except ε α}
    {second : α → Except ε β}
    {value : β}
    (isOk : first.bind second = .ok value) :
    ∃ between, first = .ok between ∧ second between = .ok value := by
  cases first with
  | error fault => contradiction
  | ok between => exact ⟨between, rfl, isOk⟩

theorem map_eq_ok
    {ε α β : Type}
    {first : Except ε α}
    {change : α → β}
    {value : β}
    (isOk : first.map change = .ok value) :
    ∃ between, first = .ok between ∧ change between = value := by
  cases first with
  | error fault => contradiction
  | ok between =>
      cases isOk
      exact ⟨between, rfl, rfl⟩

namespace Path

/-- The location that segments lead to if none of them steps up. -/
def lead (start : Location) (segments : List String) : Location :=
  segments.foldl
    (fun location segment => if isNoise segment then location else segment :: location)
    start

/-- Segments that never step up, and a name after them, lead to a name in a directory. -/
def Names (path : Path) (directory : Location) (name : String) : Prop :=
  ∃ before,
    path.segments = before ++ [name] ∧
      ".." ∉ before ∧
      lead [] before = directory ∧
      isNoise name = false ∧
      name ≠ ".."

/-- Whether a segment is too long to be looked up. -/
def isTooLong (segment : String) : Bool :=
  decide (longestName < segment.utf8ByteSize)

/-- What speaks against a path in any tree. -/
def admission (path : Path) : Except FileFault Unit :=
  path.checked.bind fun segments =>
    if segments.any isTooLong then .error .nameTooLong else .ok ()

@[simp]
theorem lead_nil (start : Location) : lead start [] = start :=
  rfl

theorem lead_cons_noise
    {segment : String}
    (noise : isNoise segment = true)
    (start : Location)
    (rest : List String) :
    lead start (segment :: rest) = lead start rest := by
  simp [lead, noise]

theorem lead_cons_name
    {segment : String}
    (noNoise : isNoise segment = false)
    (start : Location)
    (rest : List String) :
    lead start (segment :: rest) = lead (segment :: start) rest := by
  simp [lead, noNoise]

theorem lead_append
    (start : Location)
    (first second : List String) :
    lead start (first ++ second) = lead (lead start first) second :=
  List.foldl_append

/-- Following segments leads downwards. -/
theorem suffix_lead
    (start : Location)
    (segments : List String) :
    start <:+ lead start segments := by
  induction segments generalizing start with
  | nil => exact List.suffix_refl start
  | cons segment rest inductionHypothesis =>
      cases noise : isNoise segment with
      | true =>
          rw [lead_cons_noise noise]
          exact inductionHypothesis start
      | false =>
          rw [lead_cons_name noise]
          exact (List.suffix_cons segment start).trans (inductionHypothesis (segment :: start))

/-- A segment that names nothing is short. -/
theorem isTooLong_noise
    {segment : String}
    (noise : isNoise segment = true) :
    isTooLong segment = false := by
  rw [isNoise, Bool.or_eq_true, beq_iff_eq, beq_iff_eq] at noise
  rcases noise with isEmpty | isDot
  · subst isEmpty
    decide
  · subst isDot
    decide

/-- A path that can be followed is followed by its segments. -/
theorem segments_of_checked
    {path : Path}
    {segments : List String}
    (checked : path.checked = .ok segments) :
    segments = path.segments := by
  unfold Path.checked at checked
  split at checked
  · contradiction
  · split at checked
    · contradiction
    · split at checked
      · contradiction
      · cases checked
        rfl

end Path

namespace FileTree

open SplitTunnel.Path (lead isNoise isTooLong Names)

variable {tree : FileTree} {start directory location : Location} {path : Path} {name : String}

theorem requireDirectory_eq_ok :
    tree.requireDirectory location = .ok () ↔ tree.get? location = some .directory := by
  rw [requireDirectory]
  split <;> simp_all

theorem follow_noise
    {segment : String}
    (noise : isNoise segment = true) :
    follow start segment = .ok start := by
  simp [follow, noise]

theorem follow_name
    {segment : String}
    (noNoise : isNoise segment = false)
    (noStep : segment ≠ "..") :
    follow start segment =
      if isTooLong segment then .error .nameTooLong else .ok (segment :: start) := by
  simp [follow, noNoise, noStep, isTooLong]

theorem walk_cons
    (segment : String)
    (rest : List String) :
    tree.walk start (segment :: rest) =
      (tree.requireDirectory start).bind fun _ =>
        (follow start segment).bind fun next => tree.walk next rest := by
  rw [walk]
  cases tree.requireDirectory start with
  | error fault => rfl
  | ok _ =>
      cases follow start segment with
      | error fault => rfl
      | ok next => rfl

theorem walk_append
    (first second : List String) :
    tree.walk start (first ++ second) =
      (tree.walk start first).bind fun next => tree.walk next second := by
  induction first generalizing start with
  | nil => rfl
  | cons segment rest inductionHypothesis =>
      rw [List.cons_append, walk_cons, walk_cons]
      cases tree.requireDirectory start with
      | error fault => rfl
      | ok _ =>
          cases follow start segment with
          | error fault => rfl
          | ok next => exact inductionHypothesis

/-- Segments that never step up lead where they say, if they can be followed. -/
theorem walk_eq_lead
    {segments : List String}
    (noStep : ".." ∉ segments)
    (walked : tree.walk start segments = .ok location) :
    location = lead start segments := by
  induction segments generalizing start with
  | nil =>
      cases walked
      rfl
  | cons segment rest inductionHypothesis =>
      obtain ⟨segmentStays, restStays⟩ := List.ne_and_not_mem_of_not_mem_cons noStep
      rw [walk_cons] at walked
      obtain ⟨_, _, walked⟩ := bind_eq_ok walked
      cases noise : isNoise segment with
      | true =>
          rw [follow_noise noise] at walked
          rw [Path.lead_cons_noise noise]
          exact inductionHypothesis restStays walked
      | false =>
          rw [follow_name noise segmentStays.symm] at walked
          rw [Path.lead_cons_name noise]
          split at walked
          · contradiction
          · exact inductionHypothesis restStays walked

/-- In a directory that is there, only a name that is too long stops a walk. -/
theorem walk_of_directory
    {segments : List String}
    (noStep : ".." ∉ segments)
    (found : tree.get? (lead start segments) = some .directory) :
    tree.walk start segments =
      if segments.any isTooLong then .error .nameTooLong else .ok (lead start segments) := by
  induction segments generalizing start with
  | nil => rfl
  | cons segment rest inductionHypothesis =>
      obtain ⟨segmentStays, restStays⟩ := List.ne_and_not_mem_of_not_mem_cons noStep
      have startFound : tree.get? start = some .directory :=
        get?_suffix found (Path.suffix_lead start _)
      rw [walk_cons, requireDirectory_eq_ok.mpr startFound]
      change (follow start segment).bind _ = _
      cases noise : isNoise segment with
      | true =>
          rw [Path.lead_cons_noise noise] at found ⊢
          rw [follow_noise noise, List.any_cons, Path.isTooLong_noise noise, Bool.false_or]
          exact inductionHypothesis restStays found
      | false =>
          rw [Path.lead_cons_name noise] at found ⊢
          rw [follow_name noise segmentStays.symm, List.any_cons]
          cases isTooLong segment with
          | true => rfl
          | false => exact inductionHypothesis restStays found

/-- The place at the end of segments whose last is a name. -/
theorem place?_concat
    (before : List String)
    (noNoise : isNoise name = false)
    (noStep : name ≠ "..") :
    tree.place? (before ++ [name]) =
      (tree.walk [] before).bind fun parent =>
        (tree.requireDirectory parent).map fun _ =>
          some { parent := parent, name := name, slashFollows := false } := by
  have notEmpty : (name == "") = false :=
    (Bool.or_eq_false_iff.mp noNoise).1
  have notDots : ¬(name = "." ∨ name = "..") := by
    rintro (isDot | isDots)
    · rw [isDot] at noNoise
      contradiction
    · exact noStep isDots
  have noSlash : (some name == some "") = false := by
    simpa using notEmpty
  have reversed :
      (before ++ [name]).reverse.dropWhile (fun segment => segment == "") =
        name :: before.reverse := by
    rw [List.reverse_append, List.reverse_singleton, List.singleton_append,
      List.dropWhile_cons, notEmpty]
    rfl
  rw [place?, reversed]
  simp only [List.reverse_reverse, if_neg notDots, List.getLast?_concat, noSlash]
  cases tree.walk [] before <;> rfl

/--
The place that a plain path names, or the fault that keeps it from being named.

If the directory above the name is there, the fault lies in the path alone.
-/
theorem place?_cases
    (tree : FileTree)
    (names : Names path directory name) :
    (∃ fault,
      path.checked.bind tree.place? = .error fault ∧
        (tree.get? directory = some .directory → path.admission = .error fault)) ∨
    (path.checked.bind tree.place? =
        .ok (some { parent := directory, name := name, slashFollows := false }) ∧
      tree.get? directory = some .directory ∧
      path.admission =
        if isTooLong name then .error .nameTooLong else .ok ()) := by
  obtain ⟨before, segmentsShape, noStep, leads, noNoise, isName⟩ := names
  cases checked : path.checked with
  | error fault =>
      refine Or.inl ⟨fault, rfl, fun _ => ?_⟩
      rw [Path.admission, checked]
      rfl
  | ok segments =>
      have sameSegments : segments = before ++ [name] :=
        (Path.segments_of_checked checked).trans segmentsShape
      subst sameSegments
      have admission : path.admission =
          if (before ++ [name]).any isTooLong then .error .nameTooLong else .ok () := by
        rw [Path.admission, checked]
        rfl
      change
        (∃ fault, tree.place? (before ++ [name]) = .error fault ∧ _) ∨
          (tree.place? (before ++ [name]) = _ ∧ _)
      rw [place?_concat before noNoise isName]
      by_cases found : tree.get? (lead [] before) = some .directory
      · rw [walk_of_directory noStep found, admission, List.any_append]
        cases before.any isTooLong with
        | true => exact Or.inl ⟨.nameTooLong, rfl, fun _ => rfl⟩
        | false =>
            refine Or.inr ⟨?_, leads ▸ found, by simp⟩
            change (tree.requireDirectory (lead [] before)).map _ = _
            rw [requireDirectory_eq_ok.mpr found, leads]
            rfl
      · rw [leads] at found
        refine Or.inl ?_
        cases walked : tree.walk [] before with
        | error fault => exact ⟨fault, rfl, fun isThere => absurd isThere found⟩
        | ok parent =>
            have isParent : parent = directory := (walk_eq_lead noStep walked).trans leads
            subst isParent
            cases required : tree.requireDirectory parent with
            | ok _ => exact absurd (requireDirectory_eq_ok.mp required) found
            | error fault =>
                refine ⟨fault, ?_, fun isThere => absurd isThere found⟩
                change (tree.requireDirectory parent).map _ = _
                rw [required]
                rfl

/-- Where a plain path leads in a directory that is there. -/
theorem locate_of_directory
    (names : Names path directory name)
    (found : tree.get? directory = some .directory) :
    tree.locate path = path.admission.map fun _ => name :: directory := by
  obtain ⟨before, segmentsShape, noStep, leads, noNoise, isName⟩ := names
  rw [locate, Path.admission]
  cases checked : path.checked with
  | error fault => rfl
  | ok segments =>
      have sameSegments : segments = before ++ [name] :=
        (Path.segments_of_checked checked).trans segmentsShape
      subst sameSegments
      rw [← leads] at found ⊢
      change tree.walk [] (before ++ [name]) =
        Except.map _ (if (before ++ [name]).any isTooLong then _ else _)
      rw [walk_append, walk_of_directory noStep found, List.any_append]
      cases before.any isTooLong with
      | true => rfl
      | false =>
          change tree.walk (lead [] before) [name] = _
          rw [walk_cons, requireDirectory_eq_ok.mpr found]
          change (follow (lead [] before) name).bind _ = _
          rw [follow_name noNoise isName, Bool.false_or, List.any_cons, List.any_nil,
            Bool.or_false]
          cases isTooLong name <;> rfl

/-- A plain path that leads somewhere leads into a directory. -/
theorem directory_of_locate
    (names : Names path directory name)
    (located : tree.locate path = .ok location) :
    tree.get? directory = some .directory := by
  obtain ⟨before, segmentsShape, noStep, leads, noNoise, isName⟩ := names
  obtain ⟨segments, checked, located⟩ := bind_eq_ok located
  rw [Path.segments_of_checked checked, segmentsShape, walk_append] at located
  obtain ⟨parent, walked, located⟩ := bind_eq_ok located
  have isParent : parent = directory := (walk_eq_lead noStep walked).trans leads
  rw [walk_cons, isParent] at located
  obtain ⟨_, required, _⟩ := bind_eq_ok located
  exact requireDirectory_eq_ok.mp required

/-- What a plain path finds, and where. -/
theorem find_eq_ok_iff
    (names : Names path directory name)
    {entry : Entry} :
    tree.find path = .ok (location, entry) ↔
      path.admission = .ok () ∧
        location = name :: directory ∧
        tree.get? (name :: directory) = some entry := by
  rw [find]
  constructor
  · intro found
    cases located : tree.locate path with
    | error fault =>
        rw [located] at found
        contradiction
    | ok reached =>
        have above := directory_of_locate names located
        rw [locate_of_directory names above] at located
        cases admitted : path.admission with
        | error fault =>
            rw [admitted] at located
            contradiction
        | ok _ =>
            rw [admitted] at located
            cases located
            rw [locate_of_directory names above, admitted] at found
            simp only [Except.map, Except.bind] at found
            split at found
            · contradiction
            · cases found
              exact ⟨rfl, rfl, by assumption⟩
  · rintro ⟨admitted, rfl, stored⟩
    rw [locate_of_directory names (get?_parent stored), admitted]
    simp only [Except.map, Except.bind, stored]

end FileTree

end SplitTunnel
