import SplitTunnel.Proofs.Path.Children
import SplitTunnel.Proofs.Text.Trimming

namespace SplitTunnel

/-!
# Names of the files of a store

Settings are refused for the first fault of their names, whether a name is set
or left to its default: each name is judged alone before two are compared.
Names that are accepted are three different files right in whatever directory
the store is put.
-/

/-- The files that a fault of their names is about. -/
def NameFault.files : NameFault → List StoreFile
  | .blank file => [file]
  | .notPlain file _ => [file]
  | .same first second _ => [first, second]

/-- What is said about a fault names the key of every file that it is about. -/
theorem NameFault.key_infix_message
    {fault : NameFault}
    {file : StoreFile}
    (isAbout : file ∈ fault.files) :
    ("store." ++ file.key).toList <:+: fault.message.toList := by
  cases fault with
  | blank only =>
      cases List.mem_singleton.mp isAbout
      refine ⟨[], " cannot be empty".toList, ?_⟩
      simp [message, toString]
  | notPlain only name =>
      cases List.mem_singleton.mp isAbout
      refine ⟨[], (" must be a plain file name, got '" ++ name ++ "'").toList, ?_⟩
      simp [message, toString]
  | same first second name =>
      simp only [files, List.mem_cons, List.not_mem_nil, or_false] at isAbout
      rcases isAbout with rfl | rfl
      · refine ⟨[],
          (" and store." ++ second.key ++ " must differ (both '" ++ name ++ "')").toList, ?_⟩
        simp [message, toString]
      · refine ⟨("store." ++ first.key ++ " and ").toList,
          (" must differ (both '" ++ name ++ "')").toList, ?_⟩
        simp [message, toString]

namespace StoreSettings

variable {settings : StoreSettings} {name : String} {file : StoreFile} {fault : NameFault}

/-- A name without a separator that is not one of the names that every directory has. -/
structure IsPlain (name : String) : Prop where
  noSlash : '/' ∉ name.toList
  noBackslash : '\\' ∉ name.toList
  notHere : name ≠ "."
  notAbove : name ≠ ".."

/-- A name that a file of a store may have. -/
structure IsFileName (name : String) : Prop extends IsPlain name where
  notBlank : Text.trim name.toList ≠ []

theorem isPlainName_iff : isPlainName name = true ↔ IsPlain name := by
  simp only [isPlainName, Bool.not_eq_true', Bool.or_eq_false_iff, List.contains_eq_mem,
    decide_eq_false_iff_not, beq_eq_false_iff_ne]
  constructor
  · rintro ⟨⟨⟨noSlash, noBackslash⟩, notHere⟩, notAbove⟩
    exact ⟨noSlash, noBackslash, notHere, notAbove⟩
  · rintro ⟨noSlash, noBackslash, notHere, notAbove⟩
    exact ⟨⟨⟨noSlash, noBackslash⟩, notHere⟩, notAbove⟩

/-- A name alone is at fault if it is blank, and otherwise if it is not plain. -/
theorem nameFault?_eq_some_iff :
    settings.nameFault? file = some fault ↔
      (Text.trim (settings.name file).toList = [] ∧ fault = .blank file) ∨
        (Text.trim (settings.name file).toList ≠ [] ∧
          ¬IsPlain (settings.name file) ∧
          fault = .notPlain file (settings.name file)) := by
  rw [nameFault?, ← isPlainName_iff, Ne, Text.trim_eq_nil_iff]
  split
  · rename_i isBlank
    simp only [isBlank, true_and, not_true_eq_false, false_and, or_false, Option.some.injEq]
    exact eq_comm
  · rename_i notBlank
    split
    · rename_i isPlain
      simp [notBlank, isPlain]
    · rename_i notPlain
      simp only [notBlank, notPlain, Bool.false_eq_true, not_false_eq_true, true_and,
        false_and, false_or, Option.some.injEq]
      exact eq_comm

theorem nameFault?_eq_none_iff :
    settings.nameFault? file = none ↔ IsFileName (settings.name file) := by
  rw [Option.eq_none_iff_forall_ne_some]
  simp only [ne_eq, nameFault?_eq_some_iff]
  constructor
  · intro noFault
    have notBlank : Text.trim (settings.name file).toList ≠ [] :=
      fun isBlank => noFault _ (Or.inl ⟨isBlank, rfl⟩)
    refine ⟨?_, notBlank⟩
    by_contra notPlain
    exact noFault _ (Or.inr ⟨notBlank, notPlain, rfl⟩)
  · rintro ⟨isPlain, notBlank⟩ fault (⟨isBlank, _⟩ | ⟨_, notPlain, _⟩)
    · exact notBlank isBlank
    · exact notPlain isPlain

theorem pairFault?_eq_some_iff
    {pair : StoreFile × StoreFile} :
    settings.pairFault? pair = some fault ↔
      settings.name pair.1 = settings.name pair.2 ∧
        fault = .same pair.1 pair.2 (settings.name pair.1) := by
  rw [pairFault?]
  split <;> simp_all [eq_comm]

theorem pairFault?_eq_none_iff
    {pair : StoreFile × StoreFile} :
    settings.pairFault? pair = none ↔ settings.name pair.1 ≠ settings.name pair.2 := by
  rw [pairFault?]
  split <;> simp_all

/--
The first fault of the names.

Each name is judged in the order lock, temp, rules, and only if all may stand
are two of them compared, in the order lock with temp, lock with rules, temp
with rules.
-/
inductive FirstFault (settings : StoreSettings) : NameFault → Prop where
  | blank
      {earlier later : List StoreFile}
      {file : StoreFile}
      (order : [.lock, .temp, .rules] = earlier ++ file :: later)
      (earlierStand : ∀ other ∈ earlier, IsFileName (settings.name other))
      (isBlank : Text.trim (settings.name file).toList = []) :
      FirstFault settings (.blank file)
  | notPlain
      {earlier later : List StoreFile}
      {file : StoreFile}
      (order : [.lock, .temp, .rules] = earlier ++ file :: later)
      (earlierStand : ∀ other ∈ earlier, IsFileName (settings.name other))
      (notBlank : Text.trim (settings.name file).toList ≠ [])
      (notPlain : ¬IsPlain (settings.name file)) :
      FirstFault settings (.notPlain file (settings.name file))
  | same
      {earlier later : List (StoreFile × StoreFile)}
      {first second : StoreFile}
      (order : [(.lock, .temp), (.lock, .rules), (.temp, .rules)] =
        earlier ++ (first, second) :: later)
      (allStand : ∀ file, IsFileName (settings.name file))
      (earlierDiffer : ∀ pair ∈ earlier, settings.name pair.1 ≠ settings.name pair.2)
      (isSame : settings.name first = settings.name second) :
      FirstFault settings (.same first second (settings.name first))

theorem findSome?_nameFault?_eq_none_iff :
    StoreFile.all.findSome? settings.nameFault? = none ↔
      ∀ file, IsFileName (settings.name file) := by
  rw [List.findSome?_eq_none_iff]
  simp only [nameFault?_eq_none_iff]
  constructor
  · intro allStand file
    exact allStand file (by cases file <;> decide)
  · exact fun allStand file _ => allStand file

/-- Settings are accepted if each name may stand and no two are the same. -/
theorem fault?_eq_none_iff :
    settings.fault? = none ↔
      (∀ file, IsFileName (settings.name file)) ∧
        settings.name .lock ≠ settings.name .temp ∧
        settings.name .lock ≠ settings.name .rules ∧
        settings.name .temp ≠ settings.name .rules := by
  rw [fault?, Option.or_eq_none_iff, findSome?_nameFault?_eq_none_iff,
    List.findSome?_eq_none_iff]
  simp [StoreFile.pairs, pairFault?_eq_none_iff]

/-- The fault that settings are refused for is the first one. -/
theorem fault?_eq_some_iff :
    settings.fault? = some fault ↔ FirstFault settings fault := by
  rw [fault?, Option.or_eq_some_iff, findSome?_nameFault?_eq_none_iff,
    List.findSome?_eq_some_iff, List.findSome?_eq_some_iff]
  simp only [nameFault?_eq_none_iff, pairFault?_eq_none_iff, nameFault?_eq_some_iff,
    pairFault?_eq_some_iff]
  constructor
  · rintro (⟨earlier, file, later, order, ⟨isBlank, rfl⟩ | ⟨notBlank, notPlain, rfl⟩,
        earlierStand⟩ |
      ⟨allStand, earlier, ⟨first, second⟩, later, order, ⟨isSame, rfl⟩, earlierDiffer⟩)
    · exact .blank order earlierStand isBlank
    · exact .notPlain order earlierStand notBlank notPlain
    · exact .same order allStand earlierDiffer isSame
  · rintro (⟨order, earlierStand, isBlank⟩ | ⟨order, earlierStand, notBlank, notPlain⟩ |
      ⟨order, allStand, earlierDiffer, isSame⟩)
    · exact Or.inl ⟨_, _, _, order, Or.inl ⟨isBlank, rfl⟩, earlierStand⟩
    · exact Or.inl ⟨_, _, _, order, Or.inr ⟨notBlank, notPlain, rfl⟩, earlierStand⟩
    · exact Or.inr ⟨allStand, _, _, _, order, ⟨isSame, rfl⟩, earlierDiffer⟩

/-- The name of a file is a child of the directory that the store is put in. -/
theorem isChild_of_isFileName
    (stands : IsFileName name)
    (directory : Path) :
    Path.IsChild directory name (directory.join name) := by
  refine Path.isChild_join ⟨stands.noSlash, ?_, stands.notHere⟩ stands.notAbove directory
  rintro rfl
  exact stands.notBlank rfl

/-- The three files of a store are different names right in its directory. -/
structure Apart
    (settings : StoreSettings)
    (directory : Path)
    (paths : StorePaths) :
    Prop where
  lock : Path.IsChild directory (settings.name .lock) paths.lock
  temp : Path.IsChild directory (settings.name .temp) paths.temp
  target : Path.IsChild directory (settings.name .rules) paths.target
  lock_ne_temp : paths.lock ≠ paths.temp ∧ paths.lock.canonical ≠ paths.temp.canonical
  lock_ne_target : paths.lock ≠ paths.target ∧ paths.lock.canonical ≠ paths.target.canonical
  temp_ne_target : paths.temp ≠ paths.target ∧ paths.temp.canonical ≠ paths.target.canonical

theorem apart_paths
    (accepted : settings.fault? = none)
    (directory : Path) :
    Apart settings directory (settings.paths directory) := by
  obtain ⟨allStand, lock_ne_temp, lock_ne_rules, temp_ne_rules⟩ := fault?_eq_none_iff.mp accepted
  have isChild := fun file => isChild_of_isFileName (allStand file) directory
  exact {
    lock := isChild .lock
    temp := isChild .temp
    target := isChild .rules
    lock_ne_temp := (isChild .lock).ne (isChild .temp) lock_ne_temp
    lock_ne_target := (isChild .lock).ne (isChild .rules) lock_ne_rules
    temp_ne_target := (isChild .temp).ne (isChild .rules) temp_ne_rules }

end StoreSettings

namespace LoadedSettings

/-- Settings that were read from a file have acceptable names for the files of the store. -/
theorem accepted_of_ofFile
    {tree : FileTree}
    {path : Path}
    {loaded : LoadedSettings}
    (isLoaded : ofFile tree path = .ok loaded) :
    loaded.settings.fault? = none := by
  rw [ofFile] at isLoaded
  split at isLoaded
  · contradiction
  · split at isLoaded
    · contradiction
    · split at isLoaded
      · contradiction
      · split at isLoaded
        · contradiction
        · rename_i accepted
          cases isLoaded
          exact accepted

/-- The directory of the store: one that is asked for, else the one that is set, else a default. -/
def directory?
    (loaded : LoadedSettings)
    (environment : Environment)
    (asked? : Option String) :
    Option Path :=
  match asked?, loaded.settings.store.directory?, environment.home? with
  | some asked, _, _ => some { text := asked }
  | none, some set, _ => some { text := set }
  | none, none, some home => some ((Path.mk home).join ".tunrules")
  | none, none, none => none

theorem storePaths_eq
    (loaded : LoadedSettings)
    (environment : Environment)
    (asked? : Option String) :
    loaded.storePaths environment asked? =
      match loaded.directory? environment asked? with
      | none => .error .noHome
      | some directory => .ok (loaded.settings.store.paths directory) := by
  rw [storePaths, directory?.eq_def, defaultDirectory]
  cases asked? <;> cases loaded.settings.store.directory? <;> cases environment.home? <;> rfl

end LoadedSettings

namespace StoreSettings

/--
The names that settings are accepted with are safe, and no others are.

Settings are accepted if each name, set or left to its default, may stand and no
two are the same, and are refused for the first fault otherwise, with words that
name its keys.  Settings that were read from a file, and those without a file,
are accepted ones, and a store of accepted settings gets three different files
right in its directory, under exactly their names.
-/
theorem accepted_names_apart :
    (∀ settings : StoreSettings,
      (settings.fault? = none ↔
        (∀ file, IsFileName (settings.name file)) ∧
          settings.name .lock ≠ settings.name .temp ∧
          settings.name .lock ≠ settings.name .rules ∧
          settings.name .temp ≠ settings.name .rules) ∧
        ∀ fault,
          (settings.fault? = some fault ↔ FirstFault settings fault) ∧
            ∀ file ∈ fault.files,
              ("store." ++ file.key).toList <:+: fault.message.toList) ∧
      LoadedSettings.defaults.settings.fault? = none ∧
      (∀ tree path loaded,
        LoadedSettings.ofFile tree path = .ok loaded → loaded.settings.fault? = none) ∧
      ∀ loaded environment asked?,
        loaded.settings.fault? = none →
          match LoadedSettings.directory? loaded environment asked? with
          | none => loaded.storePaths environment asked? = .error .noHome
          | some directory =>
              ∃ paths,
                loaded.storePaths environment asked? = .ok paths ∧
                  Apart loaded.settings.store directory paths := by
  refine ⟨fun settings => ⟨fault?_eq_none_iff, fun fault => ⟨fault?_eq_some_iff, ?_⟩⟩, rfl,
    fun tree path loaded => LoadedSettings.accepted_of_ofFile, ?_⟩
  · exact fun file => NameFault.key_infix_message
  · intro loaded environment asked? accepted
    rw [LoadedSettings.storePaths_eq]
    split
    · rfl
    · rename_i directory _
      exact ⟨_, rfl, apart_paths (Settings.store_fault? accepted) directory⟩

/--
A lock that is called as the rules are by default is refused, and without a file
the store lies right in the directory that is asked for.
-/
theorem accepted_names_apart_sharedName :
    FirstFault
        { StoreSettings.empty with lockName? := some "vpn_rules.json" }
        (.same .lock .rules "vpn_rules.json") ∧
      ∃ paths,
        LoadedSettings.defaults.storePaths
            { settingsFile? := none, settingsHome? := none, home? := none } (some "d/..") =
          .ok paths ∧
          Apart .empty { text := "d/.." } paths := by
  obtain ⟨judged, defaultsStand, _, stored⟩ := accepted_names_apart
  refine ⟨(((judged _).2 _).1).mp (by decide), ?_⟩
  exact stored LoadedSettings.defaults
    { settingsFile? := none, settingsHome? := none, home? := none } (some "d/..") defaultsStand

end StoreSettings

end SplitTunnel
