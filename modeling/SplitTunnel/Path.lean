namespace SplitTunnel

/-!
# Paths

A path is a text of names with slashes between them.  Joining and taking the
parent are operations on that text: they do not look at any file, and nothing
is made shorter than it was written except at the end of a parent.
-/

/-- A path as it was written. -/
structure Path where
  text : String
  deriving Repr, DecidableEq

namespace Path

/-- The parts of a text between its slashes. -/
def splitSlashes : List Char → List (List Char)
  | [] => [[]]
  | c :: rest =>
      if c = '/' then
        [] :: splitSlashes rest
      else
        match splitSlashes rest with
        | [] => [[c]]
        | first :: more => (c :: first) :: more

/-- The segments of a path; the empty path has none, and a leading slash leaves an empty one. -/
def segments (path : Path) : List String :=
  match path.text.toList with
  | [] => []
  | text => (splitSlashes text).map String.ofList

/-- The path with these segments. -/
def ofSegments (segments : List String) : Path where
  text :=
    match segments with
    | [""] => "/"
    | _ => String.intercalate "/" segments

/-- Whether a text starts at the root. -/
def isAbsolute (text : String) : Bool :=
  text.toList.head? == some '/'

/-- Whether a text is empty or ends in a slash, so that a name may follow at once. -/
def endsOpen (text : String) : Bool :=
  match text.toList.getLast? with
  | none => true
  | some c => c == '/'

/-- The path of a part below a base; an absolute part stands for itself. -/
def join (base : Path) (part : String) : Path where
  text :=
    if isAbsolute part then
      part
    else if endsOpen base.text then
      base.text ++ part
    else
      base.text ++ "/" ++ part

/-- Whether a segment names nothing. -/
def isNoise (segment : String) : Bool :=
  segment == "" || segment == "."

/-- Drop the segments at the end that name nothing, but not the first of all. -/
def dropNoise : List String → List String
  | last :: before :: more =>
      if isNoise last then
        dropNoise (before :: more)
      else
        last :: before :: more
  | reversed => reversed

/-- The segments of the parent, all segments in reversed order. -/
def parentReversed? (reversed : List String) : Option (List String) :=
  match dropNoise reversed with
  | [] => none
  | [only] => if only = "" then none else some []
  | _ :: before => some (dropNoise before)

/-- The parent of a path; the empty path and the root have none. -/
def parent? (path : Path) : Option Path :=
  (parentReversed? path.segments.reverse).map fun reversed => ofSegments reversed.reverse

/-- The parent of a path if it is written in the path, that is, not empty. -/
def writtenParent? (path : Path) : Option Path :=
  path.parent?.filter fun parent => parent.text != ""

/-- Dropping segments leaves no more of them. -/
theorem length_dropNoise_le (reversed : List String) :
    (dropNoise reversed).length ≤ reversed.length := by
  fun_induction dropNoise reversed with
  | case1 last before more isNoise inductionHypothesis =>
      exact Nat.le_trans inductionHypothesis (Nat.le_succ _)
  | case2 => exact Nat.le_refl _
  | case3 => exact Nat.le_refl _

/-- A parent has fewer segments. -/
theorem length_parentReversed?_lt
    {reversed parent : List String}
    (isParent : parentReversed? reversed = some parent) :
    parent.length < reversed.length := by
  have shorter := length_dropNoise_le reversed
  rw [parentReversed?] at isParent
  split at isParent
  · contradiction
  · rename_i only dropped
    rw [dropped] at shorter
    split at isParent
    · contradiction
    · cases isParent
      exact shorter
  · rename_i last before _ dropped
    rw [dropped] at shorter
    cases isParent
    exact Nat.lt_of_le_of_lt (length_dropNoise_le before) shorter

end Path

end SplitTunnel
