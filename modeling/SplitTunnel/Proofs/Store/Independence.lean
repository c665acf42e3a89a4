import SplitTunnel.Proofs.FileTree.Likeness
import SplitTunnel.Proofs.Path.Children
import SplitTunnel.Proofs.Store.Registry

namespace SplitTunnel

/-!
# Stores side by side

Two stores in one directory do not notice each other unless one is called as the
temp file of the other, and then only the loads of that one may.  Whatever is saved
and loaded in whatever order, all other answers of each store are those that it
gives without the calls of the other.
-/

open FileTree (Alike)
open SplitTunnel.Path (resolve)

namespace StorePaths

/-- The locations of the files of a store. -/
def locations (paths : StorePaths) : List Location :=
  [paths.lock.canonical, paths.temp.canonical, paths.target.canonical]

/-- The paths of a store end in names after some segments. -/
structure EndIn (paths : StorePaths) (before : List String) : Prop where
  lock : ∃ name, paths.lock.EndsIn before name
  temp : ∃ name, paths.temp.EndsIn before name
  target : ∃ name, paths.target.EndsIn before name

end StorePaths

namespace Store

variable {α β : Type} {store : Store α} {paths : StorePaths} {own : List Location}
variable {before : List String} {session other : Session} {tree next : FileTree} {value : α}
variable {answer : SystemAnswer} {mode : LockMode}

section Ready

/-- The directory of a store is there, so making it again changes nothing. -/
def IsReady (paths : StorePaths) (tree : FileTree) : Prop :=
  DiskStep.runAll tree (DiskStep.makeParent paths.lock) = (tree, .ok ())

theorem IsReady.later
    (ready : IsReady paths tree)
    (alike : Alike own tree next) :
    IsReady paths next :=
  DiskStep.runAll_makeParent_again ready alike.keepsDirectories

theorem IsReady.arrives
    (ready : IsReady paths tree)
    (endIn : paths.EndIn before) :
    tree.approach [] before = .ok (resolve [] before) := by
  obtain ⟨name, ends⟩ := endIn.lock
  exact DiskStep.approach_of_makeParent ends ready

theorem IsReady.opening_eq
    (ready : IsReady paths tree) :
    DiskStep.runAll tree (Lock.opening paths.lock) =
      DiskStep.runAll tree [.touch paths.lock] := by
  rw [Lock.opening, DiskStep.runAll_append, ready]

theorem IsReady.replacing_eq
    (ready : IsReady paths tree)
    (endIn : paths.EndIn before)
    (content : List UInt8) :
    DiskStep.runAll tree (replacing paths content) =
      DiskStep.runAll tree
        [.truncate paths.temp, .write paths.temp content, .sync paths.temp,
          .replace paths.temp paths.target] := by
  obtain ⟨lockName, lockEnds⟩ := endIn.lock
  obtain ⟨tempName, tempEnds⟩ := endIn.temp
  rw [Store.replacing_eq, DiskStep.runAll_append, DiskStep.makeParent_eq tempEnds lockEnds,
    ready]

end Ready

section Elsewhere

/-- The files of a store lie elsewhere than at some locations. -/
def LiesElsewhere (paths : StorePaths) (own : List Location) : Prop :=
  ∀ location ∈ paths.locations, location ∉ own

theorem opening_elsewhere
    (elsewhere : LiesElsewhere paths own)
    (ready : IsReady paths tree) :
    Alike own tree (DiskStep.runAll tree (Lock.opening paths.lock)).1 := by
  rw [ready.opening_eq]
  apply DiskStep.runAll_elsewhere
  intro step member
  cases List.mem_singleton.mp member
  exact .touch (elsewhere _ (by simp [StorePaths.locations]))

theorem LiesElsewhere.temp
    (elsewhere : LiesElsewhere paths own) :
    paths.temp.canonical ∉ own :=
  elsewhere _ (by simp [StorePaths.locations])

theorem writeAndReplace_elsewhere
    (elsewhere : LiesElsewhere store.paths own)
    (endIn : store.paths.EndIn before)
    (ready : IsReady store.paths tree)
    (value : α) :
    Alike own tree (store.writeAndReplace tree value).1 := by
  have targetElsewhere := elsewhere store.paths.target.canonical (by simp [StorePaths.locations])
  cases encoded : store.codec.encode value with
  | error fault =>
      rw [writeAndReplace_of_refused encoded]
      exact .refl tree
  | ok content =>
      rw [writeAndReplace_of_encoded encoded, ready.replacing_eq endIn]
      apply DiskStep.runAll_elsewhere
      simp only [List.mem_cons, List.not_mem_nil, or_false, forall_eq_or_imp, forall_eq]
      exact ⟨.truncate elsewhere.temp, .write elsewhere.temp, .sync _,
        .replace elsewhere.temp targetElsewhere⟩

theorem removeLeftover_elsewhere
    (tempElsewhere : paths.temp.canonical ∉ own)
    (tree : FileTree) :
    Alike own tree (removeLeftover paths tree) := by
  rw [removeLeftover_eq]
  split
  · exact .refl tree
  · rename_i next removed
    exact FileTree.alike_unlink removed tempElsewhere

/-- A save of a store elsewhere makes no difference. -/
theorem trySave_elsewhere
    (elsewhere : LiesElsewhere store.paths own)
    (endIn : store.paths.EndIn before)
    (ready : IsReady store.paths session.tree)
    (value : α)
    (answer : SystemAnswer) :
    Alike own session.tree (store.trySave session value { lock := answer }).2.tree := by
  have opened := opening_elsewhere elsewhere ready
  rw [← Lock.acquire_tree session store.paths.lock .exclusive answer] at opened
  rcases trySave_cases store session value { lock := answer } with
    ⟨fault, _, outcome⟩ | ⟨granted, locked, acquired, outcome⟩
  · rw [outcome]
    exact opened
  · rw [acquired] at opened
    rw [outcome]
    dsimp only
    rw [Lock.release_tree]
    exact (opened.trans
      (writeAndReplace_elsewhere elsewhere endIn (ready.later opened) value)).trans
        (removeLeftover_elsewhere elsewhere.temp _)

/-- A load of a store elsewhere makes no difference. -/
theorem tryLoad_elsewhere
    (elsewhere : LiesElsewhere store.paths own)
    (ready : IsReady store.paths session.tree)
    (answer : SystemAnswer) :
    Alike own session.tree (store.tryLoad session answer).2.tree := by
  rw [tryLoad_tree]
  exact opening_elsewhere elsewhere ready

end Elsewhere

section SameFiles

/-- Two sessions hold the same locks and agree at some locations. -/
structure AlikeSessions (own : List Location) (session other : Session) : Prop where
  trees : Alike own session.tree other.tree
  held : session.held = other.held

/--
Locations of a store that its saves depend on.

The lock file is looked at as it is.  The temp file is emptied before it is looked
at, so it may differ.
-/
structure Covers (own : List Location) (paths : StorePaths) : Prop where
  lock : paths.lock.canonical ∈ own
  temp : paths.temp.canonical ∉ own

theorem opening_alike
    {otherTree : FileTree}
    (covers : Covers own paths)
    (endIn : paths.EndIn before)
    (ready : IsReady paths tree)
    (alike : Alike own tree otherTree) :
    (DiskStep.runAll tree (Lock.opening paths.lock)).2 =
        (DiskStep.runAll otherTree (Lock.opening paths.lock)).2 ∧
      Alike own (DiskStep.runAll tree (Lock.opening paths.lock)).1
        (DiskStep.runAll otherTree (Lock.opening paths.lock)).1 := by
  obtain ⟨name, ends⟩ := endIn.lock
  rw [ready.opening_eq, (ready.later alike).opening_eq]
  refine DiskStep.runAll_alike ?_ alike (ready.arrives endIn)
  intro step member
  cases List.mem_singleton.mp member
  exact .touch ends covers.lock

/-- In sessions that are alike the lock is refused to both or granted to both. -/
theorem acquire_alike
    (covers : Covers own paths)
    (endIn : paths.EndIn before)
    (ready : IsReady paths session.tree)
    (alike : AlikeSessions own session other)
    (mode : LockMode)
    (answer : SystemAnswer) :
    ∃ result locked otherLocked,
      Lock.acquire session paths.lock mode answer = (result, locked) ∧
        Lock.acquire other paths.lock mode answer = (result, otherLocked) ∧
        AlikeSessions own locked otherLocked ∧
        IsReady paths locked.tree := by
  have noOwn : LiesElsewhere paths [] := fun _ _ => List.not_mem_nil
  have readyOpened := ready.later (opening_elsewhere noOwn ready)
  obtain ⟨sameResult, alikeTrees⟩ := opening_alike covers endIn ready alike.trees
  cases opened : DiskStep.runAll session.tree (Lock.opening paths.lock) with
  | mk next result =>
      cases otherOpened : DiskStep.runAll other.tree (Lock.opening paths.lock) with
      | mk otherNext otherResult =>
          rw [opened, otherOpened] at sameResult alikeTrees
          rw [opened] at readyOpened
          change result = otherResult at sameResult
          subst sameResult
          cases result with
          | error failed =>
              rw [Lock.acquire_of_failed opened, Lock.acquire_of_failed otherOpened]
              exact ⟨_, _, _, rfl, rfl, ⟨alikeTrees, alike.held⟩, readyOpened⟩
          | ok _ =>
              rw [Lock.acquire_of_opened opened, Lock.acquire_of_opened otherOpened, alike.held]
              split
              · exact ⟨_, _, _, rfl, rfl, ⟨alikeTrees, rfl⟩, readyOpened⟩
              · cases answer <;>
                  exact ⟨_, _, _, rfl, rfl, ⟨alikeTrees, rfl⟩, readyOpened⟩

theorem writeAndReplace_alike
    {otherTree : FileTree}
    (endIn : store.paths.EndIn before)
    (ready : IsReady store.paths tree)
    (alike : Alike own tree otherTree)
    (value : α) :
    (store.writeAndReplace tree value).2 = (store.writeAndReplace otherTree value).2 ∧
      Alike own (store.writeAndReplace tree value).1
        (store.writeAndReplace otherTree value).1 := by
  obtain ⟨tempName, tempEnds⟩ := endIn.temp
  obtain ⟨targetName, targetEnds⟩ := endIn.target
  cases encoded : store.codec.encode value with
  | error fault =>
      rw [writeAndReplace_of_refused encoded, writeAndReplace_of_refused encoded]
      exact ⟨rfl, alike⟩
  | ok content =>
      rw [writeAndReplace_of_encoded encoded, writeAndReplace_of_encoded encoded,
        ready.replacing_eq endIn, (ready.later alike).replacing_eq endIn]
      have allLook :
          ∀ step ∈
            [DiskStep.write store.paths.temp content, .sync store.paths.temp,
              .replace store.paths.temp store.paths.target],
            step.LooksInside before (store.paths.temp.canonical :: own) := by
        simp only [List.mem_cons, List.not_mem_nil, or_false, forall_eq_or_imp, forall_eq]
        exact ⟨.write tempEnds, .sync _, .replace tempEnds (List.mem_cons_self ..) targetEnds⟩
      obtain ⟨sameResult, alikeTrees⟩ :=
        DiskStep.runAll_truncate_alike tempEnds allLook alike (ready.arrives endIn)
      exact ⟨by rw [sameResult], alikeTrees⟩

/-- A lock that was granted alike is given back alike. -/
theorem AlikeSessions.release
    (alike : AlikeSessions own session other)
    (lock : Lock) :
    AlikeSessions own (lock.release session).2 (lock.release other).2 := by
  rw [Lock.release, Lock.release]
  split
  · exact ⟨alike.trees, congrArg (SortedMap.erase · lock.key) alike.held⟩
  · exact alike

/-- A save is answered alike in sessions that are alike. -/
theorem trySave_alike
    (covers : Covers own store.paths)
    (endIn : store.paths.EndIn before)
    (ready : IsReady store.paths session.tree)
    (alike : AlikeSessions own session other)
    (value : α)
    (answer : SystemAnswer) :
    (store.trySave session value { lock := answer }).1 =
        (store.trySave other value { lock := answer }).1 ∧
      AlikeSessions own (store.trySave session value { lock := answer }).2
        (store.trySave other value { lock := answer }).2 := by
  obtain ⟨result, locked, otherLocked, acquired, otherAcquired, alikeLocked, readyLocked⟩ :=
    acquire_alike covers endIn ready alike .exclusive answer
  cases result with
  | error fault =>
      rw [trySave_of_refused { lock := answer } acquired,
        trySave_of_refused { lock := answer } otherAcquired]
      exact ⟨rfl, alikeLocked⟩
  | ok granted =>
      rw [trySave_of_granted { lock := answer } acquired,
        trySave_of_granted { lock := answer } otherAcquired]
      obtain ⟨sameResult, alikeWritten⟩ :=
        writeAndReplace_alike endIn readyLocked alikeLocked.trees value
      have cleaned := removeLeftover_elsewhere covers.temp
        (store.writeAndReplace locked.tree value).1
      have otherCleaned := removeLeftover_elsewhere covers.temp
        (store.writeAndReplace otherLocked.tree value).1
      have alikeCleaned :
          AlikeSessions own
            { locked with
              tree := removeLeftover store.paths (store.writeAndReplace locked.tree value).1 }
            { otherLocked with
              tree :=
                removeLeftover store.paths
                  (store.writeAndReplace otherLocked.tree value).1 } :=
        ⟨(cleaned.symm.trans alikeWritten).trans otherCleaned, alikeLocked.held⟩
      exact ⟨sameResult, alikeCleaned.release granted⟩

/-- What is read at the target is the same in trees that agree there. -/
theorem readTarget_alike
    {otherTree : FileTree}
    (isOwn : store.paths.target.canonical ∈ own)
    (endIn : store.paths.EndIn before)
    (ready : IsReady store.paths tree)
    (alike : Alike own tree otherTree) :
    store.readTarget tree = store.readTarget otherTree := by
  obtain ⟨name, ends⟩ := endIn.target
  have sameFound := alike.find_eq ends (ready.arrives endIn) isOwn
  rw [readTarget, readTarget, FileTree.isPresent, FileTree.isPresent, FileTree.fileContent,
    FileTree.fileContent, sameFound]

/-- A load leaves sessions alike, and is answered alike if they agree at the target. -/
theorem tryLoad_alike
    (covers : Covers own store.paths)
    (endIn : store.paths.EndIn before)
    (ready : IsReady store.paths session.tree)
    (alike : AlikeSessions own session other)
    (answer : SystemAnswer) :
    (store.paths.target.canonical ∈ own →
        (store.tryLoad session answer).1 = (store.tryLoad other answer).1) ∧
      AlikeSessions own (store.tryLoad session answer).2
        (store.tryLoad other answer).2 := by
  obtain ⟨result, locked, otherLocked, acquired, otherAcquired, alikeLocked, readyLocked⟩ :=
    acquire_alike covers endIn ready alike .shared answer
  rw [tryLoad, tryLoad, acquired, otherAcquired]
  cases result with
  | error fault => exact ⟨fun _ => rfl, alikeLocked⟩
  | ok granted =>
      exact ⟨fun isOwn => readTarget_alike isOwn endIn readyLocked alikeLocked.trees,
        alikeLocked.release granted⟩

end SameFiles

/-- What is asked of a store, with the answer of the system to its lock. -/
inductive Call (α : Type) where
  | save (value : α) (answer : SystemAnswer)
  | load (answer : SystemAnswer)

/-- What a store answers. -/
inductive Reply (α : Type) where
  | saved (outcome : SaveOutcome)
  | loaded (value : α)
  deriving DecidableEq

/-- What came of a save, if that is what was asked. -/
def Reply.outcome? : Reply α → Option SaveOutcome
  | .saved outcome => some outcome
  | .loaded _ => none

/-- The answer of a store to a call, and the session after it. -/
def call (store : Store α) (session : Session) : Call α → Reply α × Session
  | .save value answer =>
      (.saved (store.save session value { lock := answer }).1,
        (store.save session value { lock := answer }).2)
  | .load answer =>
      (.loaded (store.load session answer).1, (store.load session answer).2)

/-- The answers of a store to calls one after another. -/
def replies (store : Store α) (session : Session) : List (Call α) → List (Reply α)
  | [] => []
  | next :: rest =>
      (store.call session next).1 :: store.replies (store.call session next).2 rest

/-- The answers of two stores to calls of either, in any order. -/
def mixedReplies
    (first : Store α)
    (second : Store β)
    (session : Session) :
    List (Call α ⊕ Call β) → List (Reply α ⊕ Reply β)
  | [] => []
  | .inl next :: rest =>
      .inl (first.call session next).1 :: mixedReplies first second (first.call session next).2 rest
  | .inr next :: rest =>
      .inr (second.call session next).1 ::
        mixedReplies first second (second.call session next).2 rest

section Calls

/-- Only what a load finds depends on the target. -/
theorem call_alike
    (covers : Covers own store.paths)
    (endIn : store.paths.EndIn before)
    (ready : IsReady store.paths session.tree)
    (alike : AlikeSessions own session other)
    (next : Call α) :
    (store.call session next).1.outcome? = (store.call other next).1.outcome? ∧
      (store.paths.target.canonical ∈ own →
        (store.call session next).1 = (store.call other next).1) ∧
      AlikeSessions own (store.call session next).2 (store.call other next).2 := by
  cases next with
  | save value answer =>
      obtain ⟨sameResult, alikeNext⟩ := trySave_alike covers endIn ready alike value answer
      rw [call, call, save_fst, save_fst, save_snd, save_snd, sameResult]
      exact ⟨rfl, fun _ => rfl, alikeNext⟩
  | load answer =>
      obtain ⟨sameResult, alikeNext⟩ := tryLoad_alike covers endIn ready alike answer
      rw [call, call, load_fst, load_fst, load_snd, load_snd]
      exact ⟨rfl, fun isOwn => by rw [sameResult isOwn], alikeNext⟩

/-- A call of a store elsewhere makes no difference and leaves the same locks held. -/
theorem call_elsewhere
    (session : Session)
    (elsewhere : LiesElsewhere store.paths own)
    (endIn : store.paths.EndIn before)
    (ready : IsReady store.paths session.tree)
    (next : Call α) :
    Alike own session.tree (store.call session next).2.tree ∧
      (store.call session next).2.held = session.held := by
  cases next with
  | save value answer =>
      rw [call, save_snd, trySave_held]
      exact ⟨trySave_elsewhere elsewhere endIn ready value answer, rfl⟩
  | load answer =>
      rw [call, load_snd, tryLoad_held]
      exact ⟨tryLoad_elsewhere elsewhere ready answer, rfl⟩

/-- A call finds the same whether the directory was made before it or is made by it. -/
theorem call_of_made
    {made : FileTree}
    (isMade : DiskStep.runAll session.tree (DiskStep.makeParent store.paths.lock) =
      (made, .ok ()))
    (next : Call α) :
    store.call session next = store.call { session with tree := made } next := by
  have ready : IsReady store.paths made :=
    DiskStep.runAll_makeParent_again isMade fun _ => id
  have sameOpening :
      DiskStep.runAll session.tree (Lock.opening store.paths.lock) =
        DiskStep.runAll made (Lock.opening store.paths.lock) := by
    rw [ready.opening_eq, Lock.opening, DiskStep.runAll_append, isMade]
  have sameLock (mode : LockMode) (answer : SystemAnswer) :
      Lock.acquire session store.paths.lock mode answer =
        Lock.acquire { session with tree := made } store.paths.lock mode answer := by
    rw [Lock.acquire, Lock.acquire, Lock.acquiring, Lock.acquiring, Activity.run, Activity.run,
      sameOpening]
  cases next with
  | save value answer =>
      rw [call, call, save, save, trySave_congr { lock := answer } (sameLock .exclusive answer)]
  | load answer => rw [call, call, load, load, tryLoad, tryLoad, sameLock]

end Calls

section Stuck

/-- The directory of a store cannot be made. -/
def IsStuck (paths : StorePaths) (tree : FileTree) : Prop :=
  ∃ failed, (DiskStep.runAll tree (DiskStep.makeParent paths.lock)).2 = .error failed

/-- What a store answers if it does not get its lock. -/
def refusal (store : Store α) : Call α → Reply α
  | .save _ _ => .saved .skipped
  | .load _ => .loaded store.default

/-- Where the directory cannot be made, no lock is taken, and the next one will not be either. -/
theorem IsStuck.acquire
    (stuck : IsStuck paths session.tree)
    (mode : LockMode)
    (answer : SystemAnswer) :
    ∃ fault locked,
      Lock.acquire session paths.lock mode answer = (.error fault, locked) ∧
        IsStuck paths locked.tree := by
  obtain ⟨failed, fails⟩ := stuck
  cases made : DiskStep.runAll session.tree (DiskStep.makeParent paths.lock) with
  | mk reached result =>
      rw [made] at fails
      change result = .error failed at fails
      subst fails
      have notOpened :
          DiskStep.runAll session.tree (Lock.opening paths.lock) = (reached, .error failed) := by
        rw [Lock.opening, DiskStep.runAll_append, made]
      rw [Lock.acquire_of_failed notOpened]
      exact ⟨_, _, rfl, DiskStep.runAll_makeParent_fails_again made⟩

theorem IsStuck.call
    (stuck : IsStuck store.paths session.tree)
    (next : Call α) :
    (store.call session next).1 = store.refusal next ∧
      IsStuck store.paths (store.call session next).2.tree := by
  cases next with
  | save value answer =>
      obtain ⟨fault, locked, refused, stuckLocked⟩ := stuck.acquire .exclusive answer
      rw [Store.call, save_fst, save_snd, trySave_of_refused { lock := answer } refused]
      exact ⟨rfl, stuckLocked⟩
  | load answer =>
      obtain ⟨fault, locked, refused, stuckLocked⟩ := stuck.acquire .shared answer
      have notLoaded : store.tryLoad session answer = (.error (.lock fault), locked) := by
        rw [tryLoad, refused]
      rw [Store.call, load_fst, load_snd, notLoaded]
      exact ⟨rfl, stuckLocked⟩

end Stuck

section Undisturbed

/--
How a session stands to one in which another store was left out.

Either the directory of the store can be made in neither, or once it is made the
two agree at some locations.
-/
inductive Undisturbed
    (own : List Location)
    (paths : StorePaths)
    (session alone : Session) :
    Prop where
  | stuck
      (isStuck : IsStuck paths session.tree)
      (aloneStuck : IsStuck paths alone.tree)
  | ready
      {made aloneMade : FileTree}
      (isMade :
        DiskStep.runAll session.tree (DiskStep.makeParent paths.lock) = (made, .ok ()))
      (aloneIsMade :
        DiskStep.runAll alone.tree (DiskStep.makeParent paths.lock) = (aloneMade, .ok ()))
      (alike :
        AlikeSessions own { session with tree := made } { alone with tree := aloneMade })

theorem Undisturbed.refl (session : Session) : Undisturbed own paths session session := by
  cases made : DiskStep.runAll session.tree (DiskStep.makeParent paths.lock) with
  | mk reached result =>
      cases result with
      | error failed =>
          have isStuck : IsStuck paths session.tree := ⟨failed, congrArg Prod.snd made⟩
          exact .stuck isStuck isStuck
      | ok _ => exact .ready made made ⟨.refl reached, rfl⟩

/-- The directory of a store is there after a call, if it could be made. -/
theorem ready_of_call
    (session : Session)
    (endIn : store.paths.EndIn before)
    (ready : IsReady store.paths session.tree)
    (next : Call α) :
    IsReady store.paths (store.call session next).2.tree := by
  have noOwn : LiesElsewhere store.paths [] := fun _ _ => List.not_mem_nil
  exact ready.later (call_elsewhere session noOwn endIn ready next).1

/-- A call of the store itself is answered as it is alone. -/
theorem Undisturbed.call
    {alone : Session}
    (covers : Covers own store.paths)
    (endIn : store.paths.EndIn before)
    (undisturbed : Undisturbed own store.paths session alone)
    (next : Call α) :
    (store.call session next).1.outcome? = (store.call alone next).1.outcome? ∧
      (store.paths.target.canonical ∈ own →
        (store.call session next).1 = (store.call alone next).1) ∧
      Undisturbed own store.paths (store.call session next).2 (store.call alone next).2 := by
  cases undisturbed with
  | stuck isStuck aloneStuck =>
      obtain ⟨answer, stillStuck⟩ := isStuck.call next
      obtain ⟨aloneAnswer, aloneStillStuck⟩ := aloneStuck.call next
      rw [answer, aloneAnswer]
      exact ⟨rfl, fun _ => rfl, .stuck stillStuck aloneStillStuck⟩
  | @ready made aloneMade isMade aloneIsMade alike =>
      have ready : IsReady store.paths made :=
        DiskStep.runAll_makeParent_again isMade fun _ => id
      have aloneReady : IsReady store.paths aloneMade := ready.later alike.trees
      rw [call_of_made isMade, call_of_made aloneIsMade]
      obtain ⟨sameOutcome, sameAnswer, alikeNext⟩ := call_alike covers endIn ready alike next
      exact ⟨sameOutcome, sameAnswer,
        .ready (ready_of_call _ endIn ready next) (ready_of_call _ endIn aloneReady next)
          alikeNext⟩

/-- A call of another store in the same directory makes no difference. -/
theorem Undisturbed.otherCall
    {alone : Session}
    {second : Store β}
    (endIn : paths.EndIn before)
    (secondEndIn : second.paths.EndIn before)
    (elsewhere : LiesElsewhere second.paths own)
    (undisturbed : Undisturbed own paths session alone)
    (next : Call β) :
    Undisturbed own paths (second.call session next).2 alone := by
  obtain ⟨name, ends⟩ := endIn.lock
  obtain ⟨secondName, secondEnds⟩ := secondEndIn.lock
  have sameMaking := DiskStep.makeParent_eq secondEnds ends
  cases undisturbed with
  | stuck isStuck aloneStuck =>
      have secondStuck : IsStuck second.paths session.tree := by
        rw [IsStuck, sameMaking]
        exact isStuck
      have stillStuck := (secondStuck.call next).2
      rw [IsStuck, sameMaking] at stillStuck
      exact .stuck stillStuck aloneStuck
  | @ready made aloneMade isMade aloneIsMade alike =>
      have secondMade := isMade
      rw [← sameMaking] at secondMade
      have secondReady : IsReady second.paths made :=
        DiskStep.runAll_makeParent_again secondMade fun _ => id
      rw [call_of_made secondMade]
      obtain ⟨sameForUs, sameHeld⟩ :=
        call_elsewhere { session with tree := made } elsewhere secondEndIn secondReady next
      have stillMade := ready_of_call { session with tree := made } secondEndIn secondReady next
      rw [IsReady, sameMaking] at stillMade
      exact .ready stillMade aloneIsMade
        ⟨sameForUs.symm.trans alike.trees, sameHeld.trans alike.held⟩

/-- Which of two stores is the first does not matter. -/
theorem mixedReplies_swap
    (first : Store α)
    (second : Store β)
    (session : Session)
    (calls : List (Call α ⊕ Call β)) :
    mixedReplies second first session (calls.map Sum.swap) =
      (mixedReplies first second session calls).map Sum.swap := by
  induction calls generalizing session with
  | nil => rfl
  | cons next rest inductionHypothesis =>
      cases next with
      | inl next => exact congrArg _ (inductionHypothesis _)
      | inr next => exact congrArg _ (inductionHypothesis _)

theorem filterMap_getLeft?_swap
    {left right : Type}
    (entries : List (left ⊕ right)) :
    (entries.map Sum.swap).filterMap Sum.getLeft? = entries.filterMap Sum.getRight? := by
  rw [List.filterMap_map]
  congr 1
  funext entry
  cases entry <;> rfl

/--
A store answers among calls of a store elsewhere as it does alone.

The loads do so only if no file of the other is the target of the store.
-/
theorem mixedReplies_of_undisturbed
    {first : Store α}
    {second : Store β}
    {alone : Session}
    (covers : Covers own first.paths)
    (endIn : first.paths.EndIn before)
    (secondEndIn : second.paths.EndIn before)
    (elsewhere : LiesElsewhere second.paths own)
    (undisturbed : Undisturbed own first.paths session alone)
    (calls : List (Call α ⊕ Call β)) :
    ((mixedReplies first second session calls).filterMap Sum.getLeft?).map Reply.outcome? =
        (first.replies alone (calls.filterMap Sum.getLeft?)).map Reply.outcome? ∧
      (first.paths.target.canonical ∈ own →
        (mixedReplies first second session calls).filterMap Sum.getLeft? =
          first.replies alone (calls.filterMap Sum.getLeft?)) := by
  induction calls generalizing session alone with
  | nil => exact ⟨rfl, fun _ => rfl⟩
  | cons next rest inductionHypothesis =>
      cases next with
      | inl next =>
          obtain ⟨sameOutcome, sameAnswer, stillUndisturbed⟩ :=
            undisturbed.call covers endIn next
          obtain ⟨sameOutcomes, sameAnswers⟩ := inductionHypothesis stillUndisturbed
          constructor
          · change _ :: _ = _ :: _
            rw [sameOutcome, sameOutcomes]
          · intro isOwn
            change (first.call session next).1 :: _ = (first.call alone next).1 :: _
            rw [sameAnswer isOwn, sameAnswers isOwn]
      | inr next =>
          exact inductionHypothesis (undisturbed.otherCall endIn secondEndIn elsewhere next)

end Undisturbed

section Names

variable {stem otherStem : String}

/-- The names of the files of a store with a base name. -/
def fileNames (stem : String) : List String :=
  [stem ++ ".lock", stem ++ "_temp.json", stem ++ ".json"]

/-- A base name with a text of some length behind it is a name. -/
theorem isPart_append
    {stem ending : String}
    (noSlash : '/' ∉ stem.toList)
    (endingNoSlash : '/' ∉ ending.toList)
    (isLong : 2 < ending.length) :
    Path.IsPart (stem ++ ending) ∧ stem ++ ending ≠ ".." := by
  have isLonger : 2 < (stem ++ ending).length := by
    rw [String.length_append]
    omega
  refine ⟨⟨?_, ?_, ?_⟩, ?_⟩
  · rw [String.toList_append, List.mem_append]
    exact not_or.mpr ⟨noSlash, endingNoSlash⟩
  all_goals
    intro same
    rw [same] at isLonger
    revert isLonger
    decide

/-- The paths of a store end in the names that belong to a base name. -/
structure NamedIn (before : List String) (stem : String) (paths : StorePaths) : Prop where
  lock : paths.lock.EndsIn before (stem ++ ".lock")
  temp : paths.temp.EndsIn before (stem ++ "_temp.json")
  target : paths.target.EndsIn before (stem ++ ".json")

/-- Stores with base names in one directory end in their names after the same segments. -/
theorem exists_namedIn_inDirectory (directory : Path) :
    ∃ before, ∀ stem : String, '/' ∉ stem.toList →
      NamedIn before stem (.inDirectory directory stem) := by
  obtain ⟨before, _, joined⟩ := Path.segments_join directory
  refine ⟨before, fun stem noSlash => ?_⟩
  have ends (ending : String) (endingNoSlash : '/' ∉ ending.toList) (isLong : 2 < ending.length) :
      (directory.join (stem ++ ending)).EndsIn before (stem ++ ending) := by
    obtain ⟨isPart, notAbove⟩ := isPart_append noSlash endingNoSlash isLong
    exact ⟨joined _ isPart, Path.isNoise_part isPart, notAbove⟩
  exact ⟨ends _ (by decide) (by decide), ends _ (by decide) (by decide),
    ends _ (by decide) (by decide)⟩

/-- The name of a lock file is that of no file with another ending. -/
theorem lockName_ne
    {ending : String}
    (text otherText : String)
    (isLast : ending.toList.getLast? = some 'n') :
    text ++ ".lock" ≠ otherText ++ ending := by
  have lastChar (text ending : String) (last : Char) (isLast : ending.toList.getLast? = some last) :
      (text ++ ending).toList.getLast? = some last := by
    rw [String.toList_append, List.getLast?_append, isLast]
    rfl
  intro same
  have isLock := lastChar text ".lock" 'k' (by decide)
  rw [same, lastChar otherText ending 'n' isLast] at isLock
  cases isLock

/-- Different base names have different lock files. -/
theorem lockName_apart
    (different : stem ≠ otherStem) :
    stem ++ ".lock" ∉ fileNames otherStem := by
  simp only [fileNames, List.mem_cons, List.not_mem_nil, or_false]
  rintro (same | same | same)
  · exact different ((String.append_left_inj _).mp same)
  · exact lockName_ne _ _ (by decide) same
  · exact lockName_ne _ _ (by decide) same

/-- What is kept under a base name is no file of another, unless it is the temp file of that. -/
theorem targetName_apart
    (different : stem ≠ otherStem)
    (notTemp : stem ≠ otherStem ++ "_temp") :
    stem ++ ".json" ∉ fileNames otherStem := by
  have tempName : otherStem ++ "_temp.json" = otherStem ++ "_temp" ++ ".json" := by
    rw [String.append_assoc]
    rfl
  simp only [fileNames, List.mem_cons, List.not_mem_nil, or_false]
  rintro (same | same | same)
  · exact lockName_ne _ _ (by decide) same.symm
  · rw [tempName] at same
    exact notTemp ((String.append_left_inj _).mp same)
  · exact different ((String.append_left_inj _).mp same)

namespace NamedIn

theorem endIn
    (named : NamedIn before stem paths) :
    paths.EndIn before :=
  ⟨⟨_, named.lock⟩, ⟨_, named.temp⟩, ⟨_, named.target⟩⟩

/-- No file of a store stands under a name that is none of its names. -/
theorem notMem_locations
    {name : String}
    (named : NamedIn before stem paths)
    (apart : name ∉ fileNames stem) :
    name :: resolve [] before ∉ paths.locations := by
  intro member
  rw [StorePaths.locations, named.lock.canonical_eq, named.temp.canonical_eq,
    named.target.canonical_eq] at member
  apply apart
  simpa [fileNames] using member

/-- The temp file is neither the lock file nor the target. -/
theorem temp_notMem
    (named : NamedIn before stem paths) :
    paths.temp.canonical ∉ [paths.lock.canonical, paths.target.canonical] := by
  rw [named.lock.canonical_eq, named.temp.canonical_eq, named.target.canonical_eq]
  simp only [List.mem_cons, List.not_mem_nil, or_false, List.cons.injEq, and_true]
  rintro (same | same)
  · exact lockName_ne _ _ (by decide) same.symm
  · have sameLength := congrArg String.length same
    rw [String.length_append, String.length_append] at sameLength
    exact absurd (Nat.add_left_cancel sameLength) (by decide)

end NamedIn

/-- A store answers among calls of a store with another base name as it does alone. -/
theorem mixedReplies_of_stems
    {first : Store α}
    {second : Store β}
    (firstNamed : NamedIn before stem first.paths)
    (secondNamed : NamedIn before otherStem second.paths)
    (different : stem ≠ otherStem)
    (session : Session)
    (calls : List (Call α ⊕ Call β)) :
    ((mixedReplies first second session calls).filterMap Sum.getLeft?).map Reply.outcome? =
        (first.replies session (calls.filterMap Sum.getLeft?)).map Reply.outcome? ∧
      (stem ≠ otherStem ++ "_temp" →
        (mixedReplies first second session calls).filterMap Sum.getLeft? =
          first.replies session (calls.filterMap Sum.getLeft?)) := by
  have lockApart := secondNamed.notMem_locations (lockName_apart different)
  rw [← firstNamed.lock.canonical_eq] at lockApart
  have tempApart := firstNamed.temp_notMem
  constructor
  · have covers : Covers [first.paths.lock.canonical] first.paths :=
      ⟨List.mem_singleton_self _, fun isLock =>
        tempApart (List.mem_cons.mpr (.inl (List.mem_singleton.mp isLock)))⟩
    have elsewhere : LiesElsewhere second.paths [first.paths.lock.canonical] := by
      intro location isOther isOwn
      rw [List.mem_singleton.mp isOwn] at isOther
      exact lockApart isOther
    exact (mixedReplies_of_undisturbed covers firstNamed.endIn secondNamed.endIn elsewhere
      (.refl session) calls).1
  · intro notTemp
    have targetApart := secondNamed.notMem_locations (targetName_apart different notTemp)
    rw [← firstNamed.target.canonical_eq] at targetApart
    have covers :
        Covers [first.paths.lock.canonical, first.paths.target.canonical] first.paths :=
      ⟨List.mem_cons_self .., tempApart⟩
    have elsewhere :
        LiesElsewhere second.paths
          [first.paths.lock.canonical, first.paths.target.canonical] := by
      intro location isOther isOwn
      simp only [List.mem_cons, List.not_mem_nil, or_false] at isOwn
      rcases isOwn with rfl | rfl
      · exact lockApart isOther
      · exact targetApart isOther
    exact (mixedReplies_of_undisturbed covers firstNamed.endIn secondNamed.endIn elsewhere
      (.refl session) calls).2 (by simp)

/--
Stores with different base names in one directory are independent.

Whatever is there at the start and whatever the system answers, each store answers
its own calls as it does without those of the other in between.  Only the loads of
a store may differ whose base name is the other with `_temp` behind it.
-/
theorem mixedReplies_independent
    {first : Store α}
    {second : Store β}
    (directory : Path)
    (noSlash : '/' ∉ stem.toList)
    (otherNoSlash : '/' ∉ otherStem.toList)
    (different : stem ≠ otherStem)
    (firstPaths : first.paths = .inDirectory directory stem)
    (secondPaths : second.paths = .inDirectory directory otherStem)
    (session : Session)
    (calls : List (Call α ⊕ Call β)) :
    (stem ≠ otherStem ++ "_temp" →
        (mixedReplies first second session calls).filterMap Sum.getLeft? =
          first.replies session (calls.filterMap Sum.getLeft?)) ∧
      (otherStem ≠ stem ++ "_temp" →
        (mixedReplies first second session calls).filterMap Sum.getRight? =
          second.replies session (calls.filterMap Sum.getRight?)) ∧
      ((mixedReplies first second session calls).filterMap Sum.getLeft?).map Reply.outcome? =
        (first.replies session (calls.filterMap Sum.getLeft?)).map Reply.outcome? ∧
      ((mixedReplies first second session calls).filterMap Sum.getRight?).map Reply.outcome? =
        (second.replies session (calls.filterMap Sum.getRight?)).map Reply.outcome? := by
  obtain ⟨before, named⟩ := exists_namedIn_inDirectory directory
  have firstNamed := named stem noSlash
  have secondNamed := named otherStem otherNoSlash
  rw [← firstPaths] at firstNamed
  rw [← secondPaths] at secondNamed
  obtain ⟨firstOutcomes, firstAnswers⟩ :=
    mixedReplies_of_stems firstNamed secondNamed different session calls
  obtain ⟨secondOutcomes, secondAnswers⟩ :=
    mixedReplies_of_stems secondNamed firstNamed different.symm session (calls.map Sum.swap)
  rw [mixedReplies_swap, filterMap_getLeft?_swap, filterMap_getLeft?_swap] at secondOutcomes
  rw [mixedReplies_swap, filterMap_getLeft?_swap, filterMap_getLeft?_swap] at secondAnswers
  exact ⟨firstAnswers, secondAnswers, firstOutcomes, secondOutcomes⟩

/-- Two endings of a temp file apart, each store finds what it saved, on a way that steps up. -/
theorem mixedReplies_independent_twiceTemp :
    let first : Store (List UInt64) := .json (.inDirectory ⟨"d/../e"⟩ "a")
    let second : Store (List UInt64) := .json (.inDirectory ⟨"d/../e"⟩ "a_temp_temp")
    let calls : List (Call (List UInt64) ⊕ Call (List UInt64)) :=
      [.inr (.save [1] (.ok ())), .inl (.save [2] (.ok ())), .inr (.load (.ok ())),
        .inl (.load (.ok ()))]
    (mixedReplies first second (.ofTree .empty) calls).filterMap Sum.getLeft? =
        [.saved .committed, .loaded [2]] ∧
      (mixedReplies first second (.ofTree .empty) calls).filterMap Sum.getRight? =
        [.saved .committed, .loaded [1]] := by
  intro first second calls
  obtain ⟨firstSame, secondSame, _⟩ :=
    mixedReplies_independent ⟨"d/../e"⟩ (by decide) (by decide) (by decide)
      (rfl : first.paths = .inDirectory _ "a") (rfl : second.paths = .inDirectory _ "a_temp_temp")
      (.ofTree .empty) calls
  rw [firstSame (by decide), secondSame (by decide)]
  constructor <;> decide +kernel

/-- A store loses its value to one whose temp file it is. -/
theorem replies_lost_inTempName :
    let first : Store (List UInt64) := .json (.inDirectory ⟨"d"⟩ "a")
    let second : Store (List UInt64) := .json (.inDirectory ⟨"d"⟩ "a_temp")
    let calls : List (Call (List UInt64) ⊕ Call (List UInt64)) :=
      [.inr (.save [1] (.ok ())), .inl (.save [2] (.ok ())), .inr (.load (.ok ()))]
    (mixedReplies first second (.ofTree .empty) calls).filterMap Sum.getRight? ≠
      second.replies (.ofTree .empty) (calls.filterMap Sum.getRight?) := by
  decide +kernel

end Names

end Store

end SplitTunnel
