import SplitTunnel.Proofs.Store.History

namespace SplitTunnel

/-!
# The registry of held locks

A process takes locks by any paths, gives them back, drops its guards and uses
stores, in any order.  The registry always holds the canonical locations of the
guards that are held, each of them once, so paths that are spelled differently
and lead to one file exclude each other, and a guard that is given back twice or
late frees nobody else's lock.
-/

namespace Store

variable {α : Type} (store : Store α) (session : Session) (value : α) (answers : SaveAnswers)
variable (answer : SystemAnswer) (openingAnswers : List StepAnswer)

/-- A save that is tried leaves the registry as it was. -/
@[simp]
theorem trySave_held :
    (store.trySave session value answers).2.held = session.held := by
  have locking :=
    Lock.acquire_cases session store.paths.lock .exclusive answers.lock answers.opening
  rcases trySave_cases store session value answers with
    ⟨fault, refused, outcome⟩ | ⟨granted, locked, acquired, outcome⟩
  · rw [outcome]
    rcases locking with ⟨_, _, attempt⟩ | ⟨_, _, attempt⟩
    · rw [attempt]
    · rw [attempt] at refused
      cases refused
  · rw [outcome]
    rcases locking with ⟨_, _, attempt⟩ | ⟨_, isNew, attempt⟩
    · rw [attempt] at acquired
      cases acquired
    · rw [attempt] at acquired
      cases acquired
      exact SortedMap.erase_insert isNew ()

/-- A load that is tried leaves the registry as it was. -/
theorem tryLoad_held :
    (store.tryLoad session answer openingAnswers).2.held = session.held := by
  rw [tryLoad]
  rcases Lock.acquire_cases session store.paths.lock .shared answer openingAnswers with
    ⟨fault, next, refused⟩ | ⟨next, isNew, granted⟩
  · rw [refused]
  · rw [granted]
    exact SortedMap.erase_insert isNew ()

variable {store session value answers} in
/-- The lock of a store was free when a save succeeded, and is free again after it. -/
theorem notHeld_of_trySave
    {next : Session}
    (saved : store.trySave session value answers = (.ok (), next)) :
    next.held.contains store.paths.lock.canonical = false := by
  have sameHeld := store.trySave_held session value answers
  rw [saved] at sameHeld
  change next.held = session.held at sameHeld
  rw [sameHeld]
  obtain ⟨_, _, _, _, acquired, _⟩ := trySave_eq_ok (congrArg Prod.fst saved)
  rcases Lock.acquire_cases session store.paths.lock .exclusive answers.lock
      answers.opening with ⟨_, _, attempt⟩ | ⟨_, isNew, _⟩
  · rw [attempt] at acquired
    cases acquired
  · exact isNew

end Store

namespace Lock

open Store (World)

variable {world : World} {guard : Lock} {path : Path} {mode : LockMode} {answer : SystemAnswer}
variable {openingAnswers : List StepAnswer}

/-- The canonical locations of the guards that are held. -/
def heldLocations (guards : List Lock) : List Location :=
  (guards.filter Lock.isHeld).map fun guard => guard.path.canonical

@[simp]
theorem heldLocations_nil : heldLocations [] = [] :=
  rfl

@[simp]
theorem heldLocations_append
    (first second : List Lock) :
    heldLocations (first ++ second) = heldLocations first ++ heldLocations second := by
  simp [heldLocations]

/-- A guard that is held adds its location, and another guard adds none. -/
theorem heldLocations_cons
    (guard : Lock)
    (rest : List Lock) :
    heldLocations (guard :: rest) =
      if guard.isHeld then
        guard.path.canonical :: heldLocations rest
      else
        heldLocations rest := by
  rw [heldLocations, List.filter_cons]
  split <;> rfl

/-- What a process may do with locks and stores, and what the system answers to it. -/
inductive Act : Type 1 where
  | acquire
      (path : Path)
      (mode : LockMode)
      (answer : SystemAnswer)
      (openingAnswers : List StepAnswer := [])
  | release (index : Nat) (answer : SystemAnswer)
  | drop (index : Nat)
  | save {α : Type} (store : Store α) (value : α) (answers : SaveAnswers)
  | trySave {α : Type} (store : Store α) (value : α) (answers : SaveAnswers)
  | load
      {α : Type}
      (store : Store α)
      (answer : SystemAnswer)
      (openingAnswers : List StepAnswer)
  | tryLoad
      {α : Type}
      (store : Store α)
      (answer : SystemAnswer)
      (openingAnswers : List StepAnswer)
  | elsewhere (tree : FileTree)

/--
The process after an act; what happens elsewhere may change any files.

A guard that is dropped is gone, while one that is given back stays and may be
given back or dropped later on.
-/
def after (world : World) : Act → World
  | .acquire path mode answer openingAnswers =>
      { session := (Lock.acquire world.session path mode answer openingAnswers).2
        guards :=
          world.guards ++
            (Lock.acquire world.session path mode answer openingAnswers).1.toOption.toList }
  | .release index answer =>
      match world.guards[index]? with
      | none => world
      | some guard =>
          { session := (guard.tryRelease world.session answer).2.2
            guards := world.guards.set index (guard.tryRelease world.session answer).2.1 }
  | .drop index =>
      match world.guards[index]? with
      | none => world
      | some guard =>
          { session := (guard.release world.session).2
            guards := world.guards.eraseIdx index }
  | .save store value answers =>
      { world with session := (store.save world.session value answers).2 }
  | .trySave store value answers =>
      { world with session := (store.trySave world.session value answers).2 }
  | .load store answer openingAnswers =>
      { world with session := (store.load world.session answer openingAnswers).2 }
  | .tryLoad store answer openingAnswers =>
      { world with session := (store.tryLoad world.session answer openingAnswers).2 }
  | .elsewhere tree =>
      { world with session := { world.session with tree := tree } }

/-- The process after acts one after another, starting without any lock. -/
def afterAll (tree : FileTree) (acts : List Act) : World :=
  acts.foldl after { session := .ofTree tree, guards := [] }

/-- The registry holds the locations of the guards that are held, each of them once. -/
structure Registered (world : World) : Prop where
  keys : ∀ guard ∈ world.guards, guard.key = guard.path.canonical
  registered :
    ∀ location,
      world.session.held.contains location = true ↔ location ∈ heldLocations world.guards
  distinct : (heldLocations world.guards).Nodup

/-- Whatever leaves the registry and the guards alone keeps them in step. -/
theorem Registered.ofSame
    (sound : Registered world)
    {session : Session}
    (sameHeld : session.held = world.session.held) :
    Registered { world with session := session } where
  keys := sound.keys
  registered := by
    rw [sameHeld]
    exact sound.registered
  distinct := sound.distinct

/-- A lock that is taken is registered with its guard, and one that is refused is not. -/
theorem Registered.acquire
    (sound : Registered world)
    (path : Path)
    (mode : LockMode)
    (answer : SystemAnswer)
    (openingAnswers : List StepAnswer) :
    Registered (after world (.acquire path mode answer openingAnswers)) := by
  rw [after]
  rcases acquire_cases world.session path mode answer openingAnswers with
    ⟨fault, next, refused⟩ | ⟨next, isNew, granted⟩
  · rw [refused]
    simp only [Except.toOption, Option.toList, List.append_nil]
    exact sound.ofSame rfl
  · have notHeld : path.canonical ∉ heldLocations world.guards := by
      rw [← sound.registered, isNew]
      exact Bool.false_ne_true
    rw [granted]
    refine ⟨?_, ?_, ?_⟩
    · intro guard member
      rcases List.mem_append.mp member with wasThere | isAdded
      · exact sound.keys guard wasThere
      · cases List.mem_singleton.mp isAdded
        rfl
    · intro location
      simp [Except.toOption, heldLocations_cons, sound.registered, or_comm]
    · simp [Except.toOption, heldLocations_cons, List.nodup_append, sound.distinct]
      exact fun location isHeld same => notHeld (same ▸ isHeld)

/-- A guard that was given back is not held. -/
theorem release_fst
    (guard : Lock)
    (session : Session) :
    (guard.release session).1 = { guard with isHeld := false } := by
  obtain ⟨path, key, mode, isHeld⟩ := guard
  cases isHeld <;> rfl

/-- Giving back a guard that is held frees its own location, and another guard frees nothing. -/
theorem contains_release
    (guard : Lock)
    (session : Session)
    (location : Location) :
    (guard.release session).2.held.contains location = true ↔
      session.held.contains location = true ∧ ¬(guard.isHeld = true ∧ guard.key = location) := by
  rw [release]
  split
  · rename_i isHeld
    rw [SortedMap.contains_erase]
    constructor
    · rintro ⟨isOther, isThere⟩
      exact ⟨isThere, fun own => isOther own.2.symm⟩
    · rintro ⟨isThere, notOwn⟩
      exact ⟨fun same => notOwn ⟨isHeld, same.symm⟩, isThere⟩
  · rename_i notHeld
    simp [notHeld]

/-- A guard stands between those before it and those after it. -/
theorem exists_split
    {guards : List Lock}
    {index : Nat}
    (isGuard : guards[index]? = some guard) :
    ∃ front back,
      guards = front ++ guard :: back ∧
        (∀ other, guards.set index other = front ++ other :: back) ∧
        guards.eraseIdx index = front ++ back := by
  obtain ⟨inRange, isHere⟩ := List.getElem?_eq_some_iff.mp isGuard
  refine ⟨guards.take index, guards.drop (index + 1), ?_, ?_, ?_⟩
  · rw [← isHere, ← List.drop_eq_getElem_cons inRange, List.take_append_drop]
  · intro other
    rw [List.set_eq_take_append_cons_drop, if_pos inRange]
  · exact List.eraseIdx_eq_take_drop_succ ..

/-- The locations of the other guards are those that are left when a guard gives back its own. -/
theorem Registered.mem_others
    {front back : List Lock}
    (sound : Registered world)
    (shape : world.guards = front ++ guard :: back)
    (location : Location) :
    location ∈ heldLocations (front ++ back) ↔
      location ∈ heldLocations world.guards ∧ ¬(guard.isHeld = true ∧ guard.key = location) := by
  have distinct := sound.distinct
  have isKey := sound.keys guard (by simp [shape])
  rw [shape, heldLocations_append, heldLocations_cons] at distinct
  rw [shape, isKey, heldLocations_append, heldLocations_append, heldLocations_cons]
  cases isHeld : guard.isHeld with
  | false => simp
  | true =>
      -- Held guards do not share a location, so no other guard needs the one that is freed.
      rw [isHeld, if_pos rfl, List.nodup_middle, List.nodup_cons, List.mem_append] at distinct
      obtain ⟨isOwn, _⟩ := distinct
      simp only [if_pos, List.mem_append, List.mem_cons, true_and]
      constructor
      · intro isOther
        refine ⟨isOther.imp_right Or.inr, ?_⟩
        rintro rfl
        exact isOwn isOther
      · rintro ⟨inFront | isGuard | inBack, notGuard⟩
        · exact Or.inl inFront
        · exact absurd isGuard.symm notGuard
        · exact Or.inr inBack

/-- A guard that is given back or dropped leaves the registry to the others. -/
theorem Registered.freed
    {front back guards : List Lock}
    (sound : Registered world)
    (shape : world.guards = front ++ guard :: back)
    (keys : ∀ guard ∈ guards, guard.key = guard.path.canonical)
    (sameLocations : heldLocations guards = heldLocations (front ++ back)) :
    Registered { session := (guard.release world.session).2, guards := guards } where
  keys := keys
  registered location := by
    rw [contains_release, sound.registered, sameLocations, sound.mem_others shape]
  distinct := by
    have distinct := sound.distinct
    rw [shape, heldLocations_append, heldLocations_cons] at distinct
    rw [sameLocations, heldLocations_append]
    split at distinct
    · rw [List.nodup_middle, List.nodup_cons] at distinct
      exact distinct.2
    · exact distinct

/-- Every act keeps the registry in step with the guards. -/
theorem Registered.afterAct
    (sound : Registered world)
    (act : Act) :
    Registered (after world act) := by
  cases act with
  | acquire path mode answer openingAnswers =>
      exact sound.acquire path mode answer openingAnswers
  | release index answer =>
      rw [after]
      cases isGuard : world.guards[index]? with
      | none => exact sound
      | some guard =>
          -- The guard stays in the list, but no longer counts among those that are held.
          obtain ⟨front, back, shape, setShape, _⟩ := exists_split isGuard
          change Registered { session := (guard.release world.session).2, guards := _ }
          rw [setShape]
          apply sound.freed shape
          · intro other member
            rcases List.mem_append.mp member with inFront | inRest
            · exact sound.keys other (by simp [shape, inFront])
            · rcases List.mem_cons.mp inRest with isReleased | inBack
              · have isKey := sound.keys guard (by simp [shape])
                rw [isReleased, tryRelease, release_fst]
                exact isKey
              · exact sound.keys other (by simp [shape, inBack])
          · rw [tryRelease, release_fst, heldLocations_append, heldLocations_append,
              heldLocations_cons]
            rfl
  | drop index =>
      rw [after]
      cases isGuard : world.guards[index]? with
      | none => exact sound
      | some guard =>
          obtain ⟨front, back, shape, _, eraseShape⟩ := exists_split isGuard
          dsimp only
          rw [eraseShape]
          apply sound.freed shape
          · intro other member
            apply sound.keys other
            rw [shape]
            rcases List.mem_append.mp member with inFront | inBack
            · exact List.mem_append_left _ inFront
            · exact List.mem_append_right _ (List.mem_cons_of_mem _ inBack)
          · rfl
  | save store value answers =>
      apply sound.ofSame
      rw [Store.save_snd]
      exact store.trySave_held world.session value answers
  | trySave store value answers =>
      exact sound.ofSame (store.trySave_held world.session value answers)
  | load store answer openingAnswers =>
      apply sound.ofSame
      rw [Store.load_snd]
      exact store.tryLoad_held world.session answer openingAnswers
  | tryLoad store answer openingAnswers =>
      exact sound.ofSame (store.tryLoad_held world.session answer openingAnswers)
  | elsewhere tree => exact sound.ofSame rfl

/-- Whatever a process did, its registry is in step with its guards. -/
theorem registered_afterAll
    (tree : FileTree)
    (acts : List Act) :
    Registered (afterAll tree acts) := by
  induction acts using List.reverseRecOn with
  | nil =>
      refine ⟨fun guard member => absurd member List.not_mem_nil, fun location => ?_, List.nodup_nil⟩
      rw [SortedMap.contains, show (afterAll tree []).session.held.get? location = none from rfl]
      simp [heldLocations, afterAll]
  | append_singleton acts act inductionHypothesis =>
      rw [afterAll, List.foldl_append]
      exact inductionHypothesis.afterAct act

/-- A guard for a location is held. -/
def HeldAt (world : World) (location : Location) : Prop :=
  ∃ guard ∈ world.guards, guard.isHeld = true ∧ guard.path.canonical = location

/-- An act gives back or drops the guard with an index. -/
def Act.Frees (index : Nat) : Act → Prop
  | .release freed _ => freed = index
  | .drop freed => freed = index
  | _ => False

/-- An act uses a store. -/
def Act.UsesStore : Act → Prop
  | .save .. | .trySave .. | .load .. | .tryLoad .. => True
  | _ => False

theorem Registered.contains_iff
    (sound : Registered world)
    (location : Location) :
    world.session.held.contains location = true ↔ HeldAt world location := by
  rw [sound.registered, heldLocations, HeldAt]
  simp [and_assoc]

/-- What becomes of a lock that is asked for when its lock file was opened. -/
theorem Registered.acquire_eq
    {opened : FileTree}
    (sound : Registered world)
    (isOpen :
      DiskStep.runAll world.session.tree (opening path) openingAnswers = (opened, .ok ())) :
    (HeldAt world path.canonical →
      Lock.acquire world.session path mode answer openingAnswers =
        (.error (.alreadyHeld path), { world.session with tree := opened })) ∧
    (¬HeldAt world path.canonical →
      Lock.acquire world.session path mode (.ok ()) openingAnswers =
        (.ok { path := path, key := path.canonical, mode := mode, isHeld := true },
          { tree := opened, held := world.session.held.insert path.canonical () })) := by
  rw [acquire_of_opened isOpen, acquire_of_opened isOpen, ← sound.contains_iff]
  constructor
  · intro isHeld
    rw [if_pos isHeld]
  · intro notHeld
    rw [if_neg notHeld]

/-- A lock that is refused leaves the registry and every guard as they were. -/
theorem after_acquire_of_error
    {fault : LockFault}
    (refused :
      (Lock.acquire world.session path mode answer openingAnswers).1 = .error fault) :
    (after world (.acquire path mode answer openingAnswers)).session.held =
        world.session.held ∧
      (after world (.acquire path mode answer openingAnswers)).guards = world.guards := by
  rw [after]
  rcases acquire_cases world.session path mode answer openingAnswers with
    ⟨fault, next, outcome⟩ | ⟨next, _, outcome⟩
  · rw [outcome]
    exact ⟨rfl, List.append_nil _⟩
  · rw [outcome] at refused
    contradiction

/-- A guard that is given back or dropped frees its own location if it held it, and no other. -/
theorem Registered.after_of_frees
    {index : Nat}
    {act : Act}
    (sound : Registered world)
    (isGuard : world.guards[index]? = some guard)
    (frees : act.Frees index)
    (location : Location) :
    (after world act).session.held.contains location = true ↔
      world.session.held.contains location = true ∧
        ¬(guard.isHeld = true ∧ guard.path.canonical = location) := by
  have isKey := sound.keys guard (List.mem_of_getElem? isGuard)
  have sameSession : (after world act).session = (guard.release world.session).2 := by
    cases act with
    | release freed answer =>
        have same : freed = index := frees
        rw [after, same, isGuard]
        rfl
    | drop freed =>
        have same : freed = index := frees
        rw [after, same, isGuard]
    | _ => exact frees.elim
  rw [sameSession, contains_release, isKey]

/-- Another guard that is held stays registered when a guard is given back or dropped. -/
theorem Registered.after_keeps
    {index otherIndex : Nat}
    {act : Act}
    {other : Lock}
    (sound : Registered world)
    (isGuard : world.guards[index]? = some guard)
    (frees : act.Frees index)
    (isOther : otherIndex ≠ index)
    (isOtherGuard : world.guards[otherIndex]? = some other)
    (isHeld : other.isHeld = true) :
    (after world act).session.held.contains other.path.canonical = true := by
  obtain ⟨front, back, shape, _, eraseShape⟩ := exists_split isGuard
  have inOthers : other ∈ front ++ back := by
    rw [← eraseShape]
    exact List.mem_eraseIdx_iff_getElem?.mpr ⟨otherIndex, isOther, isOtherGuard⟩
  have isLocation : other.path.canonical ∈ heldLocations (front ++ back) :=
    List.mem_map.mpr ⟨other, List.mem_filter.mpr ⟨inOthers, isHeld⟩, rfl⟩
  have isKey := sound.keys guard (List.mem_of_getElem? isGuard)
  rw [sound.mem_others shape, ← sound.registered, isKey] at isLocation
  exact (sound.after_of_frees isGuard frees _).mpr isLocation

/-- A store that is used leaves the registry and every guard as they were. -/
theorem after_of_usesStore
    {act : Act}
    (usesStore : act.UsesStore) :
    (after world act).session.held = world.session.held ∧
      (after world act).guards = world.guards := by
  cases act with
  | save store value answers =>
      refine ⟨?_, rfl⟩
      rw [after, Store.save_snd, Store.trySave_held]
  | trySave store value answers => exact ⟨store.trySave_held world.session value answers, rfl⟩
  | load store answer openingAnswers =>
      refine ⟨?_, rfl⟩
      rw [after, Store.load_snd, Store.tryLoad_held]
  | tryLoad store answer openingAnswers =>
      exact ⟨store.tryLoad_held world.session answer openingAnswers, rfl⟩
  | _ => exact usesStore.elim

/--
Whatever a process did, its registry holds the canonical locations of the guards
that are held, and no two of these share one.

So a lock whose file is opened is granted, unless the system refuses it, if no
guard holds its location, and is refused as held already if one does, in
whatever mode.  A guard that is given back or dropped frees its own location at
most, and using a store leaves nothing registered.
-/
theorem registry_exact
    (tree : FileTree)
    (acts : List Act) :
    let world := afterAll tree acts
    (∀ location, world.session.held.contains location = true ↔ HeldAt world location) ∧
      (world.guards.filter Lock.isHeld).Pairwise
        (fun first second => first.path.canonical ≠ second.path.canonical) ∧
      (∀ path mode answer openingAnswers opened,
        DiskStep.runAll world.session.tree (opening path) openingAnswers =
            (opened, .ok ()) →
          opened.locate path = .ok path.canonical ∧
            (HeldAt world path.canonical →
              Lock.acquire world.session path mode answer openingAnswers =
                (.error (.alreadyHeld path), { world.session with tree := opened })) ∧
            (¬HeldAt world path.canonical →
              Lock.acquire world.session path mode (.ok ()) openingAnswers =
                (.ok { path := path, key := path.canonical, mode := mode, isHeld := true },
                  { tree := opened, held := world.session.held.insert path.canonical () }))) ∧
      (∀ path mode answer openingAnswers fault,
        (Lock.acquire world.session path mode answer openingAnswers).1 = .error fault →
          (after world (.acquire path mode answer openingAnswers)).session.held =
              world.session.held ∧
            (after world (.acquire path mode answer openingAnswers)).guards =
              world.guards) ∧
      (∀ index guard act,
        world.guards[index]? = some guard →
          act.Frees index →
            (∀ location,
              (after world act).session.held.contains location = true ↔
                world.session.held.contains location = true ∧
                  ¬(guard.isHeld = true ∧ guard.path.canonical = location)) ∧
            (∀ otherIndex other,
              otherIndex ≠ index →
                world.guards[otherIndex]? = some other →
                  other.isHeld = true →
                    (after world act).session.held.contains other.path.canonical = true)) ∧
      (∀ act,
        act.UsesStore →
          (after world act).session.held = world.session.held ∧
            (after world act).guards = world.guards) := by
  have sound := registered_afterAll tree acts
  refine ⟨sound.contains_iff, List.pairwise_map.mp sound.distinct, ?_, ?_, ?_, ?_⟩
  · intro path mode answer openingAnswers opened isOpen
    exact ⟨locate_of_opened (DiskStep.runAll_of_answered isOpen), sound.acquire_eq isOpen⟩
  · intro path mode answer openingAnswers fault refused
    exact after_acquire_of_error refused
  · intro index guard act isGuard frees
    refine ⟨sound.after_of_frees isGuard frees, ?_⟩
    intro otherIndex other isOther isOtherGuard isHeld
    exact sound.after_keeps isGuard frees isOther isOtherGuard isHeld
  · intro act usesStore
    exact after_of_usesStore usesStore

example :
    let world := afterAll .empty
      [.acquire ⟨"logs/rules.lock"⟩ .shared (.ok ()), .release 0 (.ok ()),
        .acquire ⟨"/./logs//rules.lock"⟩ .exclusive (.ok ()), .drop 0]
    (Lock.acquire world.session ⟨"logs/../logs/rules.lock"⟩ .shared).1 =
      .error (.alreadyHeld ⟨"logs/../logs/rules.lock"⟩) := by
  decide +kernel

end Lock

end SplitTunnel
