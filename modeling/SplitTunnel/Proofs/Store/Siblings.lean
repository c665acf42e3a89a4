import SplitTunnel.Proofs.Path.Spelling
import SplitTunnel.Settings.Load

namespace SplitTunnel

/-!
# Files side by side

The three files of a store stand side by side in one directory.  The paths that
a store gets are one text with three plain names after it, whether they come
from a directory and a base name or from settings that were accepted.
-/

/-- The three paths of a store are different names in one directory. -/
structure StorePaths.Siblings
    (paths : StorePaths)
    (directory : Location)
    (lock temp target : String) :
    Prop where
  lockNames : paths.lock.Names directory lock
  tempNames : paths.temp.Names directory temp
  targetNames : paths.target.Names directory target
  lock_ne_temp : lock ≠ temp
  lock_ne_target : lock ≠ target
  target_ne_temp : target ≠ temp

namespace StorePaths.Siblings

variable {paths : StorePaths} {directory : Location} {lock temp target : String}

theorem temp_not_lock
    (siblings : paths.Siblings directory lock temp target) :
    temp :: directory ∉ [lock :: directory] := by
  simpa using siblings.lock_ne_temp.symm

theorem target_not_lock
    (siblings : paths.Siblings directory lock temp target) :
    target :: directory ∉ [lock :: directory] := by
  simpa using siblings.lock_ne_target.symm

theorem target_not_temp
    (siblings : paths.Siblings directory lock temp target) :
    target :: directory ∉ [temp :: directory] := by
  simpa using siblings.target_ne_temp

theorem lock_not_written
    (siblings : paths.Siblings directory lock temp target) :
    lock :: directory ∉ [temp :: directory, target :: directory] := by
  simp [siblings.lock_ne_temp, siblings.lock_ne_target]

end StorePaths.Siblings

namespace Path

/-- Where a path leads that never steps up. -/
def location (path : Path) : Location :=
  lead [] path.segments

theorem Names.location_eq
    {path : Path}
    {directory : Location}
    {name : String}
    (names : Names path directory name) :
    path.location = name :: directory := by
  obtain ⟨before, segmentsShape, _, leads, noNoise, _⟩ := names
  rw [location, segmentsShape, lead_append, leads, lead_cons_name noNoise, lead_nil]

/-- A text that may follow any other at the end of a path and name a file there. -/
structure IsPart (part : String) : Prop where
  noSlash : '/' ∉ part.toList
  notEmpty : part ≠ ""
  notHere : part ≠ "."

/-- Paths that have one text before their last parts end in names after the same segments. -/
theorem segments_append
    (leading : String) :
    ∃ before last, ∀ part (path : Path), IsPart part → path.text = leading ++ part →
      path.segments = before ++ [last ++ part] ∧ isNoise (last ++ part) = false := by
  obtain ⟨before, last, shape⟩ := splitSlashes_append leading.toList
  refine ⟨before.map String.ofList, String.ofList last, ?_⟩
  intro part path isPart isText
  have notEmpty : path.text ≠ "" := by
    intro isEmpty
    rw [isText, String.append_eq_empty_iff] at isEmpty
    exact isPart.notEmpty isEmpty.2
  have segmentsShape :
      path.segments = before.map String.ofList ++ [String.ofList last ++ part] := by
    rw [segments_of_ne notEmpty, isText, String.toList_append, shape _ isPart.noSlash,
      List.map_append, List.map_singleton, String.ofList_append, String.ofList_toList]
  have notNothing : String.ofList last ++ part ≠ "" := by
    intro isEmpty
    exact isPart.notEmpty (String.append_eq_empty_iff.mp isEmpty).2
  have notHere : String.ofList last ++ part ≠ "." := by
    intro isHere
    cases last with
    | nil => exact isPart.notHere (by simpa using isHere)
    | cons c more =>
        have characters := congrArg String.toList isHere
        rw [String.toList_append, String.toList_ofList, List.cons_append] at characters
        have noMore := (List.append_eq_nil_iff.mp (List.cons.inj characters).2).2
        exact isPart.notEmpty (String.toList_eq_nil_iff.mp noMore)
  exact ⟨segmentsShape, by simp [isNoise, notNothing, notHere]⟩

/-- A name at the end of segments that never step up is a name in a directory. -/
theorem names_of_segments
    {path : Path}
    {before : List String}
    {name : String}
    (segmentsShape : path.segments = before ++ [name])
    (noNoise : isNoise name = false)
    (noStep : ".." ∉ path.segments) :
    Names path (lead [] before) name := by
  rw [segmentsShape, List.mem_append, List.mem_singleton, not_or] at noStep
  exact ⟨before, segmentsShape, noStep.1, rfl, noNoise, Ne.symm noStep.2⟩

/-- Plain names below a base, after a text that is the same for all, end one text. -/
theorem join_append
    (base : Path)
    (stem : String) :
    ∃ leading, ∀ part, IsPart part → (base.join (stem ++ part)).text = leading ++ part := by
  have startsAlike : ∀ part, IsPart part → isAbsolute (stem ++ part) = isAbsolute stem := by
    intro part isPart
    rw [isAbsolute, isAbsolute, String.toList_append]
    cases stem.toList with
    | cons c more => rfl
    | nil =>
        cases shape : part.toList with
        | nil => rfl
        | cons c more =>
            have notSlash : c ≠ '/' := by
              intro isSlash
              apply isPart.noSlash
              simp [shape, isSlash]
            simpa using notSlash
  by_cases isRooted : isAbsolute stem
  · refine ⟨stem, fun part isPart => ?_⟩
    rw [join, startsAlike part isPart, if_pos isRooted]
  · by_cases isOpen : endsOpen base.text
    · refine ⟨base.text ++ stem, fun part isPart => ?_⟩
      rw [join, startsAlike part isPart, if_neg isRooted, if_pos isOpen, String.append_assoc]
    · refine ⟨base.text ++ "/" ++ stem, fun part isPart => ?_⟩
      rw [join, startsAlike part isPart, if_neg isRooted, if_neg isOpen]
      simp only [String.append_assoc]

end Path

namespace StorePaths

open SplitTunnel.Path (IsPart)

/-- No path of a store steps up. -/
structure NeverStepUp (paths : StorePaths) : Prop where
  lock : ".." ∉ paths.lock.segments
  temp : ".." ∉ paths.temp.segments
  target : ".." ∉ paths.target.segments

/-- The paths that a store gets: from a base name, or from settings that were accepted. -/
inductive Offered : StorePaths → Prop where
  | inDirectory (directory : Path) (stem : String) :
      Offered (.inDirectory directory stem)
  | ofSettings
      {loaded : LoadedSettings}
      {environment : Environment}
      {asked? : Option String}
      {paths : StorePaths}
      (accepted : loaded.settings.fault? = none)
      (found : loaded.storePaths environment asked? = .ok paths) :
      Offered paths

/-- The three paths of a store end in different names after the same segments. -/
structure SideBySide
    (paths : StorePaths)
    (before : List String)
    (lock temp target : String) :
    Prop where
  lockShape : paths.lock.segments = before ++ [lock]
  tempShape : paths.temp.segments = before ++ [temp]
  targetShape : paths.target.segments = before ++ [target]
  areNames : ∀ name ∈ [lock, temp, target], Path.isNoise name = false
  lock_ne_temp : lock ≠ temp
  lock_ne_target : lock ≠ target
  target_ne_temp : target ≠ temp

/-- Names side by side that never step up are names in one directory. -/
theorem SideBySide.siblings
    {paths : StorePaths}
    {before : List String}
    {lock temp target : String}
    (sideBySide : paths.SideBySide before lock temp target)
    (noStep : paths.NeverStepUp) :
    paths.Siblings (Path.lead [] before) lock temp target where
  lockNames :=
    Path.names_of_segments sideBySide.lockShape (sideBySide.areNames lock (by simp)) noStep.lock
  tempNames :=
    Path.names_of_segments sideBySide.tempShape (sideBySide.areNames temp (by simp)) noStep.temp
  targetNames :=
    Path.names_of_segments sideBySide.targetShape (sideBySide.areNames target (by simp))
      noStep.target
  lock_ne_temp := sideBySide.lock_ne_temp
  lock_ne_target := sideBySide.lock_ne_target
  target_ne_temp := sideBySide.target_ne_temp

/-- Three different plain names below one base stand side by side. -/
theorem sideBySide_join
    {paths : StorePaths}
    {directory : Path}
    {stem lock temp target : String}
    (lockIs : paths.lock = directory.join (stem ++ lock))
    (tempIs : paths.temp = directory.join (stem ++ temp))
    (targetIs : paths.target = directory.join (stem ++ target))
    (areParts : ∀ part ∈ [lock, temp, target], IsPart part)
    (lock_ne_temp : lock ≠ temp)
    (lock_ne_target : lock ≠ target)
    (target_ne_temp : target ≠ temp) :
    ∃ before lock temp target, paths.SideBySide before lock temp target := by
  obtain ⟨leading, text⟩ := Path.join_append directory stem
  obtain ⟨before, last, shape⟩ := Path.segments_append leading
  have different : ∀ {first second : String}, first ≠ second → last ++ first ≠ last ++ second :=
    fun notSame isSame => notSame ((String.append_right_inj last).mp isSame)
  have joined : ∀ part ∈ [lock, temp, target],
      (directory.join (stem ++ part)).segments = before ++ [last ++ part] ∧
        Path.isNoise (last ++ part) = false :=
    fun part member => shape part _ (areParts part member) (text part (areParts part member))
  refine ⟨before, last ++ lock, last ++ temp, last ++ target, {
    lockShape := lockIs ▸ (joined lock (by simp)).1
    tempShape := tempIs ▸ (joined temp (by simp)).1
    targetShape := targetIs ▸ (joined target (by simp)).1
    areNames := ?_
    lock_ne_temp := different lock_ne_temp
    lock_ne_target := different lock_ne_target
    target_ne_temp := different target_ne_temp }⟩
  intro name member
  simp only [List.mem_cons, List.not_mem_nil, or_false] at member
  rcases member with rfl | rfl | rfl
  · exact (joined lock (by simp)).2
  · exact (joined temp (by simp)).2
  · exact (joined target (by simp)).2

end StorePaths

namespace StoreSettings

/-- The names of accepted settings can follow any directory. -/
theorem isPart_name
    {store : StoreSettings}
    (accepted : store.fault? = none)
    (file : StoreFile) :
    Path.IsPart (store.name file) := by
  obtain ⟨namesAccepted, _⟩ := Option.or_eq_none_iff.mp accepted
  have member : file ∈ StoreFile.all := by cases file <;> decide
  have noFault := List.findSome?_eq_none_iff.mp namesAccepted file member
  rw [nameFault?] at noFault
  split at noFault
  · contradiction
  · rename_i notBlank
    split at noFault
    · rename_i isPlain
      simp only [isPlainName, Bool.not_eq_true', Bool.or_eq_false_iff,
        List.contains_eq_mem, decide_eq_false_iff_not, beq_eq_false_iff_ne] at isPlain
      obtain ⟨⟨⟨noSlash, _⟩, notHere⟩, _⟩ := isPlain
      refine ⟨noSlash, ?_, notHere⟩
      intro isEmpty
      apply notBlank
      rw [isEmpty]
      rfl
    · contradiction

/-- The names of accepted settings differ. -/
theorem name_ne
    {store : StoreSettings}
    (accepted : store.fault? = none)
    {first second : StoreFile}
    (isPair : (first, second) ∈ StoreFile.pairs) :
    store.name first ≠ store.name second := by
  obtain ⟨_, pairsAccepted⟩ := Option.or_eq_none_iff.mp accepted
  have noFault := List.findSome?_eq_none_iff.mp pairsAccepted _ isPair
  intro isSame
  rw [pairFault?, if_pos isSame] at noFault
  contradiction

end StoreSettings

/-- The store section of accepted settings is accepted, whether it is set or not. -/
theorem Settings.store_fault?
    {settings : Settings}
    (accepted : settings.fault? = none) :
    settings.store.fault? = none := by
  rw [fault?] at accepted
  rw [store]
  cases chosen : settings.store? with
  | none => decide
  | some store =>
      rw [chosen] at accepted
      exact accepted

/-- The paths that a store gets stand side by side. -/
theorem StorePaths.Offered.sideBySide
    {paths : StorePaths}
    (offered : paths.Offered) :
    ∃ before lock temp target, paths.SideBySide before lock temp target := by
  cases offered with
  | inDirectory directory stem =>
      have areParts : ∀ part ∈ [".lock", "_temp.json", ".json"], Path.IsPart part := by
        intro part member
        simp only [List.mem_cons, List.not_mem_nil, or_false] at member
        rcases member with rfl | rfl | rfl <;> exact ⟨by decide, by decide, by decide⟩
      exact sideBySide_join rfl rfl rfl areParts (by decide) (by decide) (by decide)
  | @ofSettings loaded environment asked? _ accepted found =>
      have accepted := Settings.store_fault? accepted
      have isInDirectory :
          ∃ directory, paths = loaded.settings.store.paths directory := by
        rw [LoadedSettings.storePaths] at found
        split at found
        · cases found
          exact ⟨_, rfl⟩
        · cases home : LoadedSettings.defaultDirectory environment with
          | error fault =>
              rw [home] at found
              contradiction
          | ok directory =>
              rw [home] at found
              cases found
              exact ⟨directory, rfl⟩
      obtain ⟨directory, rfl⟩ := isInDirectory
      have nameIs : ∀ name : String, directory.join name = directory.join ("" ++ name) := by
        intro name
        rw [String.empty_append]
      have areParts : ∀ part ∈ StoreFile.all.map loaded.settings.store.name,
          Path.IsPart part := by
        intro part member
        obtain ⟨file, _, rfl⟩ := List.mem_map.mp member
        exact StoreSettings.isPart_name accepted file
      exact sideBySide_join (nameIs _) (nameIs _) (nameIs _) areParts
        (StoreSettings.name_ne accepted (by decide))
        (StoreSettings.name_ne accepted (by decide))
        (StoreSettings.name_ne accepted (by decide)).symm

/-- The paths that a store gets are different names in one directory. -/
theorem StorePaths.Offered.siblings
    {paths : StorePaths}
    (offered : paths.Offered)
    (noStep : paths.NeverStepUp) :
    ∃ directory lock temp target, paths.Siblings directory lock temp target := by
  obtain ⟨before, lock, temp, target, sideBySide⟩ := offered.sideBySide
  exact ⟨Path.lead [] before, lock, temp, target, sideBySide.siblings noStep⟩

theorem StorePaths.siblings_dataRules :
    (StorePaths.inDirectory ⟨"data"⟩ "rules").Siblings
      ["data"] "rules.lock" "rules_temp.json" "rules.json" where
  lockNames := ⟨["data"], by decide, by decide, by decide, by decide, by decide⟩
  tempNames := ⟨["data"], by decide, by decide, by decide, by decide, by decide⟩
  targetNames := ⟨["data"], by decide, by decide, by decide, by decide, by decide⟩
  lock_ne_temp := by decide
  lock_ne_target := by decide
  target_ne_temp := by decide

end SplitTunnel
