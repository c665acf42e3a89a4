import SplitTunnel.Proofs.Store.Effect
import SplitTunnel.Proofs.Store.Reading

namespace SplitTunnel

/-!
# Histories of a store

A process works on a store through any number of handles, and takes and gives
back locks on its lock file meanwhile.  Whatever it does and in whatever order,
a load finds the value of the last save that was reported as committed, and a
save that failed or was skipped leaves no trace.
-/

namespace Codec

/-- Whether one codec reads back every value that another has written. -/
def ReadsBack (reader writer : Codec α) : Prop :=
  ∀ value content, writer.encode value = .ok content → reader.decode content = .ok value

end Codec

namespace Store

/-- A process: the files and locks it sees, and the locks that it was given. -/
structure World where
  session : Session
  guards : List Lock

/-- What was asked of a store through one of its handles or of its lock, and the answer. -/
inductive Event (ι α : Type) where
  | save (handle : ι) (value : α) (outcome : SaveOutcome)
  | trySave (handle : ι) (value : α) (result : Except StoreFault Unit)
  | load (handle : ι) (value : α)
  | tryLoad (handle : ι) (result : Except StoreFault (Option α))
  | acquire (mode : LockMode) (result : Except LockFault Lock)
  | release (index : Nat)
  | drop (index : Nat)
  | elsewhere

namespace Event

/-- The handle and the value of a save that was reported as committed. -/
def committed? : Event ι α → Option (ι × α)
  | .save handle value .committed => some (handle, value)
  | .trySave handle value (.ok ()) => some (handle, value)
  | _ => none

end Event

/-- The last save that was reported as committed. -/
def lastCommitted? (history : List (Event ι α)) : Option (ι × α) :=
  (history.filterMap Event.committed?).getLast?

variable {ι α : Type} {handles : ι → Store α} {paths : StorePaths}

/--
One step of a process that works on a store.

The system may answer each request as it likes.  What the process does elsewhere is
any change of files and held locks that leaves the entry at the target's location alone.
-/
inductive Step
    (handles : ι → Store α)
    (paths : StorePaths)
    (world : World) :
    Event ι α → World → Prop where
  | save (handle : ι) (value : α) (answers : SaveAnswers) :
      Step handles paths world
        (.save handle value ((handles handle).save world.session value answers).1)
        { world with session := ((handles handle).save world.session value answers).2 }
  | trySave (handle : ι) (value : α) (answers : SaveAnswers) :
      Step handles paths world
        (.trySave handle value ((handles handle).trySave world.session value answers).1)
        { world with session := ((handles handle).trySave world.session value answers).2 }
  | load (handle : ι) (answer : SystemAnswer) (openingAnswers : List StepAnswer) :
      Step handles paths world
        (.load handle ((handles handle).load world.session answer openingAnswers).1)
        { world with
          session := ((handles handle).load world.session answer openingAnswers).2 }
  | tryLoad (handle : ι) (answer : SystemAnswer) (openingAnswers : List StepAnswer) :
      Step handles paths world
        (.tryLoad handle ((handles handle).tryLoad world.session answer openingAnswers).1)
        { world with
          session := ((handles handle).tryLoad world.session answer openingAnswers).2 }
  | acquire (mode : LockMode) (answer : SystemAnswer) (openingAnswers : List StepAnswer) :
      Step handles paths world
        (.acquire mode
          (Lock.acquire world.session paths.lock mode answer openingAnswers).1)
        { session := (Lock.acquire world.session paths.lock mode answer openingAnswers).2
          guards :=
            world.guards ++
              (Lock.acquire world.session paths.lock mode answer
                openingAnswers).1.toOption.toList }
  | release
      {guard : Lock}
      (index : Nat)
      (isGuard : world.guards[index]? = some guard) :
      Step handles paths world (.release index)
        { session := (guard.release world.session).2
          guards := world.guards.set index (guard.release world.session).1 }
  | drop
      {guard : Lock}
      (index : Nat)
      (isGuard : world.guards[index]? = some guard) :
      Step handles paths world (.drop index)
        { session := (guard.release world.session).2
          guards := world.guards.eraseIdx index }
  | elsewhere
      (session : Session)
      (leavesTarget :
        session.tree.get? paths.target.location =
        world.session.tree.get? paths.target.location) :
      Step handles paths world .elsewhere { world with session := session }

/-- Steps one after another, with what was asked and answered. -/
inductive Run
    (handles : ι → Store α)
    (paths : StorePaths)
    (start : World) :
    List (Event ι α) → World → Prop where
  | start :
      Run handles paths start [] start
  | next
      {history : List (Event ι α)}
      {event : Event ι α}
      {world next : World}
      (run : Run handles paths start history world)
      (step : Step handles paths world event next) :
      Run handles paths start (history ++ [event]) next

section Steps

variable {store : Store α} {directory : Location} {lock temp target : String}
variable {world next : World} {event : Event ι α}

theorem acquire_target
    (siblings : paths.Siblings directory lock temp target)
    (session : Session)
    (mode : LockMode)
    (answer : SystemAnswer)
    (openingAnswers : List StepAnswer) :
    (Lock.acquire session paths.lock mode answer openingAnswers).2.tree.get?
        paths.target.location =
      session.tree.get? paths.target.location := by
  rw [siblings.targetNames.location_eq]
  have attempt := Lock.attempt_acquire session siblings.lockNames mode answer openingAnswers
  exact attempt.get?_inside target siblings.target_not_lock

theorem tryLoad_target
    (siblings : store.paths.Siblings directory lock temp target)
    (session : Session)
    (answer : SystemAnswer)
    (openingAnswers : List StepAnswer) :
    (store.tryLoad session answer openingAnswers).2.tree.get? store.paths.target.location =
      session.tree.get? store.paths.target.location := by
  rw [tryLoad_tree, ← Lock.acquire_tree session store.paths.lock .shared answer openingAnswers]
  exact acquire_target siblings session .shared answer openingAnswers

/-- A save that succeeds puts the value in the target, and one that fails leaves it alone. -/
theorem trySave_target
    (siblings : store.paths.Siblings directory lock temp target)
    (session : Session)
    (value : α)
    (answers : SaveAnswers) :
    match (store.trySave session value answers).1 with
    | .ok _ =>
        ∃ content,
          store.codec.encode value = .ok content ∧
            store.paths.target.admission = .ok () ∧
            (store.trySave session value answers).2.tree.get? store.paths.target.location =
              some (.file content)
    | .error _ =>
        (store.trySave session value answers).2.tree.get? store.paths.target.location =
          session.tree.get? store.paths.target.location := by
  rw [siblings.targetNames.location_eq]
  have effect := effect_trySave siblings session value answers
  cases result : (store.trySave session value answers).1 with
  | ok _ =>
      obtain ⟨content, encoded, admitted, stored, _⟩ := effect.succeeded result
      exact ⟨content, encoded, admitted, stored⟩
  | error fault => exact target_kept siblings (effect.failed fault result) (List.suffix_refl _)

/-- What the target holds once a save was the last to be committed, or none was yet. -/
def Holds
    (handles : ι → Store α)
    (paths : StorePaths)
    (last? : Option (ι × α))
    (tree : FileTree) :
    Prop :=
  match last? with
  | none =>
      paths.target.admission = .ok () → tree.get? paths.target.location = none
  | some (writer, value) =>
      ∃ content,
        (handles writer).codec.encode value = .ok content ∧
          paths.target.admission = .ok () ∧
          tree.get? paths.target.location = some (.file content)

theorem Holds.ofSame
    {last? : Option (ι × α)}
    {tree other : FileTree}
    (holds : Holds handles paths last? tree)
    (same : other.get? paths.target.location = tree.get? paths.target.location) :
    Holds handles paths last? other := by
  cases last? with
  | none => exact fun admitted => same.trans (holds admitted)
  | some committed =>
      obtain ⟨content, encoded, admitted, stored⟩ := holds
      exact ⟨content, encoded, admitted, same.trans stored⟩

/-- A step keeps the target's entry, unless it is a save that is reported as committed. -/
theorem Step.holds
    (siblings : paths.Siblings directory lock temp target)
    (samePaths : ∀ handle, (handles handle).paths = paths)
    {last? : Option (ι × α)}
    (holds : Holds handles paths last? world.session.tree)
    (step : Step handles paths world event next) :
    Holds handles paths (event.committed?.or last?) next.session.tree := by
  have handleSiblings :
      ∀ handle, (handles handle).paths.Siblings directory lock temp target := by
    intro handle
    rw [samePaths handle]
    exact siblings
  cases step with
  | save handle value answers =>
      have targetIs := trySave_target (handleSiblings handle) world.session value answers
      rw [save_fst, save_snd]
      cases result : ((handles handle).trySave world.session value answers).1 with
      | ok _ =>
          rw [result, samePaths] at targetIs
          exact targetIs
      | error fault =>
          rw [result, samePaths] at targetIs
          exact holds.ofSame targetIs
  | trySave handle value answers =>
      have targetIs := trySave_target (handleSiblings handle) world.session value answers
      cases result : ((handles handle).trySave world.session value answers).1 with
      | ok _ =>
          rw [result, samePaths] at targetIs
          exact targetIs
      | error fault =>
          rw [result, samePaths] at targetIs
          exact holds.ofSame targetIs
  | load handle answer openingAnswers =>
      have targetIs :=
        tryLoad_target (handleSiblings handle) world.session answer openingAnswers
      rw [samePaths, ← load_snd] at targetIs
      exact holds.ofSame targetIs
  | tryLoad handle answer openingAnswers =>
      have targetIs :=
        tryLoad_target (handleSiblings handle) world.session answer openingAnswers
      rw [samePaths] at targetIs
      exact holds.ofSame targetIs
  | acquire mode answer openingAnswers =>
      exact holds.ofSame (acquire_target siblings world.session mode answer openingAnswers)
  | release index isGuard => exact holds.ofSame (by rw [Lock.release_tree])
  | drop index isGuard => exact holds.ofSame (by rw [Lock.release_tree])
  | elsewhere session leavesTarget => exact holds.ofSame leavesTarget

theorem lastCommitted?_concat
    (history : List (Event ι α))
    (event : Event ι α) :
    lastCommitted? (history ++ [event]) = event.committed?.or (lastCommitted? history) := by
  rw [lastCommitted?, lastCommitted?, List.filterMap_append]
  cases committed : event.committed? <;> simp [committed]

theorem Run.holds
    {start : World}
    {history : List (Event ι α)}
    (siblings : paths.Siblings directory lock temp target)
    (samePaths : ∀ handle, (handles handle).paths = paths)
    (isMissing : start.session.tree.isPresent paths.target = false)
    (run : Run handles paths start history world) :
    Holds handles paths (lastCommitted? history) world.session.tree := by
  induction run with
  | start =>
      intro admitted
      rw [siblings.targetNames.location_eq]
      cases stored : start.session.tree.get? (target :: directory) with
      | none => rfl
      | some entry =>
          have isThere :=
            (FileTree.isPresent_iff siblings.targetNames).mpr ⟨admitted, entry, stored⟩
          rw [isMissing] at isThere
          contradiction
  | next run step inductionHypothesis =>
      rw [lastCommitted?_concat]
      exact step.holds siblings samePaths inductionHypothesis

/-- What a load finds, going by the last save that was committed. -/
theorem Holds.tryLoad
    {last? : Option (ι × α)}
    {session : Session}
    (siblings : paths.Siblings directory lock temp target)
    (samePaths : ∀ handle, (handles handle).paths = paths)
    {reader : ι}
    {loaded? : Option α}
    {answer : SystemAnswer}
    {openingAnswers : List StepAnswer}
    (loaded : ((handles reader).tryLoad session answer openingAnswers).1 = .ok loaded?) :
    Holds handles paths last? session.tree →
      match last? with
      | none => loaded? = none
      | some (writer, value) =>
          ∃ content found,
            (handles writer).codec.encode value = .ok content ∧
              (handles reader).codec.decode content = .ok found ∧
              loaded? = some found := by
  intro holds
  have readerSiblings : (handles reader).paths.Siblings directory lock temp target := by
    rw [samePaths reader]
    exact siblings
  rw [tryLoad_fst readerSiblings session answer openingAnswers,
    ← siblings.targetNames.location_eq] at loaded
  cases acquired :
      (Lock.acquire session (handles reader).paths.lock .shared answer openingAnswers).1 with
  | error fault =>
      rw [acquired] at loaded
      contradiction
  | ok granted =>
      rw [acquired] at loaded
      change (handles reader).reading _ = _ at loaded
      cases last? with
      | none =>
          cases admitted : paths.target.admission with
          | error fault =>
              rw [reading_refused (by rw [samePaths]; exact admitted)] at loaded
              cases loaded
              rfl
          | ok _ =>
              rw [holds admitted, reading_none] at loaded
              cases loaded
              rfl
      | some committed =>
          obtain ⟨content, encoded, admitted, stored⟩ := holds
          rw [stored, reading_file (by rw [samePaths]; exact admitted)] at loaded
          cases decoded : (handles reader).codec.decode content with
          | error fault =>
              rw [decoded] at loaded
              contradiction
          | ok found =>
              rw [decoded] at loaded
              cases loaded
              exact ⟨content, found, encoded, decoded, rfl⟩

/--
A store is a register of the last value that was reported as committed.

Whatever the system refused, after any run that started without a target, a load
that succeeds finds nothing if no save was committed, and otherwise what its codec
reads in the bytes of the last value: the value itself, if the codec reads back
what was written.  A load that falls back gives the default value instead.
-/
theorem Run.loads_lastCommitted
    {start : World}
    {history : List (Event ι α)}
    (offered : paths.Offered)
    (noStep : paths.NeverStepUp)
    (samePaths : ∀ handle, (handles handle).paths = paths)
    (isMissing : start.session.tree.isPresent paths.target = false)
    (run : Run handles paths start history world)
    (reader : ι)
    (answer : SystemAnswer)
    (openingAnswers : List StepAnswer) :
    (∀ loaded?,
      ((handles reader).tryLoad world.session answer openingAnswers).1 = .ok loaded? →
        match lastCommitted? history with
        | none => loaded? = none
        | some (writer, value) =>
            (∃ content found,
              (handles writer).codec.encode value = .ok content ∧
                (handles reader).codec.decode content = .ok found ∧
                loaded? = some found) ∧
              ((handles reader).codec.ReadsBack (handles writer).codec →
                loaded? = some value)) ∧
      ((∃ value,
          ((handles reader).tryLoad world.session answer openingAnswers).1 =
              .ok (some value) ∧
            ((handles reader).load world.session answer openingAnswers).1 = value) ∨
        ((∀ value,
            ((handles reader).tryLoad world.session answer openingAnswers).1 ≠
              .ok (some value)) ∧
          ((handles reader).load world.session answer openingAnswers).1 =
            (handles reader).default)) := by
  obtain ⟨directory, lock, temp, target, siblings⟩ := offered.siblings noStep
  have holds := run.holds siblings samePaths isMissing
  constructor
  · intro loaded? loaded
    have found := Holds.tryLoad siblings samePaths loaded holds
    cases last : lastCommitted? history with
    | none =>
        rw [last] at found
        exact found
    | some committed =>
        rw [last] at found
        refine ⟨found, fun readsBack => ?_⟩
        obtain ⟨content, value, encoded, decoded, isFound⟩ := found
        rw [readsBack _ content encoded] at decoded
        cases decoded
        exact isFound
  · rw [load]
    split
    · rename_i value next loaded
      exact Or.inl ⟨value, by rw [loaded], rfl⟩
    · rename_i next loaded
      exact Or.inr ⟨fun value => by rw [loaded]; simp, rfl⟩
    · rename_i fault next loaded
      exact Or.inr ⟨fun value => by rw [loaded]; simp, rfl⟩

/-- Two handles for bytes that are kept as they are. -/
def bytesInData : Bool → Store (List UInt8)
  | _ => { paths := .inDirectory ⟨"data"⟩ "rules", codec := ⟨.ok, .ok⟩, default := [] }

theorem Run.loads_lastCommitted_bytesInData :
    ∃ history world,
      Run bytesInData (.inDirectory ⟨"data"⟩ "rules") ⟨.ofTree .empty, []⟩ history world ∧
        lastCommitted? history = some (true, [7]) ∧
        ((bytesInData false).tryLoad world.session).1 = .ok (some [7]) := by
  have saves : ((bytesInData true).trySave (.ofTree .empty) [7]).1.isOk = true := by
    decide +kernel
  have loads :
      ((bytesInData false).tryLoad
        ((bytesInData true).trySave (.ofTree .empty) [7]).2).1.isOk = true := by
    decide +kernel
  have noStep : (StorePaths.inDirectory ⟨"data"⟩ "rules").NeverStepUp :=
    ⟨by decide, by decide, by decide⟩
  have readsBack : (bytesInData false).codec.ReadsBack (bytesInData true).codec := by
    intro value content encoded
    exact encoded.symm
  obtain ⟨_, saved⟩ := exists_ok saves
  obtain ⟨loaded?, loaded⟩ := exists_ok loads
  have run :
      Run bytesInData (.inDirectory ⟨"data"⟩ "rules") ⟨.ofTree .empty, []⟩
        ([] ++ [.trySave true [7] (.ok ())])
        ⟨((bytesInData true).trySave (.ofTree .empty) [7]).2, []⟩ := by
    rw [← saved]
    exact .next .start (.trySave true [7] {})
  have last :
      lastCommitted? ([] ++ [(.trySave true [7] (.ok ()) : Event Bool (List UInt8))]) =
        some (true, [7]) :=
    rfl
  obtain ⟨found, _⟩ := Run.loads_lastCommitted (.inDirectory _ _) noStep (fun _ => rfl)
    (by decide +kernel) run false (.ok ()) []
  have known := found loaded? loaded
  rw [last] at known
  refine ⟨_, _, run, last, ?_⟩
  rw [loaded, known.2 readsBack]

end Steps

end Store

end SplitTunnel
