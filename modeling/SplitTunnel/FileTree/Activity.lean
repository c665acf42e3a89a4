import SplitTunnel.FileTree.Step

namespace SplitTunnel

/-!
# Work on files

What a process does is cut where it changes files: it does some steps and goes on
with what has become of them.  The same work is run to its end and is looked at
where the process may be stopped, so nothing is done that the process could not
be stopped at.
-/

/-- Work that comes to a result by way of steps on disk. -/
inductive Activity (α : Type) where
  | done (result : α)
  | working
      (tree : FileTree)
      (steps : List DiskStep)
      (answers : List StepAnswer)
      (next : FileTree → Except AccessFault Unit → Activity α)

namespace Activity

/-- Do the work to its end. -/
def run : Activity α → α
  | .done result =>
      result
  | .working tree steps answers next =>
      let (reached, outcome) := DiskStep.runAll tree steps answers
      (next reached outcome).run

/-- Go on with the result of some work. -/
def andThen (next : α → Activity β) : Activity α → Activity β
  | .done result =>
      next result
  | .working tree steps answers later =>
      .working tree steps answers fun reached outcome => (later reached outcome).andThen next

@[simp]
theorem run_andThen
    (work : Activity α)
    (next : α → Activity β) :
    (work.andThen next).run = (next work.run).run := by
  induction work with
  | done result => rfl
  | working tree steps answers later inductionHypothesis =>
      exact inductionHypothesis _ _

end Activity

end SplitTunnel
