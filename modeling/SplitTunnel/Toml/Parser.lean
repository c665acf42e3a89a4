import SplitTunnel.Toml.Scalar
import SplitTunnel.Toml.Table

namespace SplitTunnel.Toml

/-!
# Reading TOML

A text is read line by line into statements, which then build the members of its
main table.  Arrays and tables as values may stand inside each other only to a
fixed depth, and a key may have as many names.  A text is either read or refused;
why it is refused is not kept.
-/

/-- The most arrays and tables around a value, and the most names of a key. -/
def deepest : Nat :=
  79

/-- Skip the blanks of a line. -/
def skipBlanks (text : List Char) : List Char :=
  text.dropWhile isLineBlank

/-- Skip a comment, up to the end of its line. -/
def skipComment (text : List Char) : List Char :=
  match text with
  | '#' :: rest => rest.dropWhile isPlain
  | _ => text

/-- Skip what may follow a statement in its line, and the end of the line. -/
def skipLineEnd (text : List Char) : Option (List Char) :=
  match skipComment (skipBlanks text) with
  | [] => some []
  | '\n' :: rest => some rest
  | _ => none

/-- Skip blanks, comments and line breaks, of which there may be so many. -/
def skipLines : Nat → List Char → Option (List Char)
  | 0, _ => none
  | limit + 1, text =>
      match skipBlanks text with
      | '\n' :: rest => skipLines limit rest
      | '#' :: rest =>
          match rest.dropWhile isPlain with
          | '\n' :: after => skipLines limit after
          | _ => none
      | rest => some rest

/-- Whether a character may stand in a key without quotes. -/
def isKeyChar (c : Char) : Bool :=
  c.isAlphanum || c == '-' || c == '_'

/-- One name of a key. -/
def scanName (text : List Char) : Scanned String :=
  match text with
  | '"' :: rest =>
      (scanBasic .plain rest).map fun found => (String.ofList found.1, found.2)
  | '\'' :: rest =>
      (scanLiteral rest).map fun found => (String.ofList found.1, found.2)
  | _ =>
      let name := text.takeWhile isKeyChar
      if name = [] then
        none
      else
        some (String.ofList name, text.dropWhile isKeyChar)

/-- A key of at most so many names with dots between them, and blanks around each. -/
def scanKey : Nat → List Char → Scanned (List String)
  | 0, _ => none
  | limit + 1, text =>
      match scanName (skipBlanks text) with
      | none =>
          none
      | some (name, rest) =>
          match skipBlanks rest with
          | '.' :: more =>
              (scanKey limit more).map fun found => (name :: found.1, found.2)
          | after =>
              some ([name], after)

mutual

/-- A value, with so many steps to read it, inside which so many containers may be opened. -/
def scanValue : Nat → Nat → List Char → Scanned Node
  | 0, _, _ => none
  | limit + 1, depth, text =>
      match text, depth with
      | '"' :: _, _ => (scanString text).map fun found => (.text found.1, found.2)
      | '\'' :: _, _ => (scanString text).map fun found => (.text found.1, found.2)
      | '[' :: rest, inner + 1 =>
          (scanElements limit inner rest).map fun found => (.array found.1, found.2)
      | '\x7b' :: rest, inner + 1 =>
          match skipBlanks rest with
          | '\x7d' :: after =>
              some (.table .closed [], after)
          | start =>
              (scanAssignments limit inner start []).map fun found =>
                (.table .closed found.1, found.2)
      | _, _ => (skipScalar text).map fun rest => (.scalar, rest)

/-- The elements of an array up to its closing bracket. -/
def scanElements : Nat → Nat → List Char → Scanned (List Node)
  | 0, _, _ => none
  | limit + 1, depth, text =>
      match skipLines (text.length + 1) text with
      | none => none
      | some (']' :: rest) => some ([], rest)
      | some start =>
          match scanValue limit depth start with
          | none => none
          | some (element, afterElement) =>
              match skipLines (afterElement.length + 1) afterElement with
              | some (',' :: rest) =>
                  (scanElements limit depth rest).map fun found => (element :: found.1, found.2)
              | some (']' :: rest) => some ([element], rest)
              | _ => none

/-- The assignments inside braces up to the closing brace. -/
def scanAssignments : Nat → Nat → List Char → Members → Scanned Members
  | 0, _, _, _ => none
  | limit + 1, depth, text, members =>
      match scanKey deepest text with
      | some (key, '=' :: afterKey) =>
          match scanValue limit depth (skipBlanks afterKey) with
          | none => none
          | some (value, afterValue) =>
              match Members.assignDotted key value members, skipBlanks afterValue with
              | some filled, ',' :: rest => scanAssignments limit depth rest filled
              | some filled, '\x7d' :: rest => some (filled, rest)
              | _, _ => none
      | _ => none

end

/-- The statement at the start of a text, with the rest after its line. -/
def scanStatement (text : List Char) : Scanned Statement :=
  match text with
  | '[' :: '[' :: rest =>
      match scanKey deepest rest with
      | some (path, ']' :: ']' :: after) =>
          (skipLineEnd after).map fun next => (.repeatedHeader path, next)
      | _ => none
  | '[' :: rest =>
      match scanKey deepest rest with
      | some (path, ']' :: after) =>
          (skipLineEnd after).map fun next => (.header path, next)
      | _ => none
  | _ =>
      match scanKey deepest text with
      | some (key, '=' :: after) =>
          match scanValue (text.length + 1) deepest (skipBlanks after) with
          | none => none
          | some (value, rest) =>
              (skipLineEnd rest).map fun next => (.assignment key value, next)
      | _ => none

/-- The statements of a text of at most so many lines. -/
def scanStatements : Nat → List Char → Option (List Statement)
  | 0, _ => none
  | limit + 1, text =>
      match skipLineEnd text with
      | some [] => some []
      | some rest => scanStatements limit rest
      | none =>
          match scanStatement (skipBlanks text) with
          | none => none
          | some (statement, rest) =>
              (scanStatements limit rest).map (statement :: ·)

/-- Drop the mark of the byte order at the start of a text. -/
def dropMark : List Char → List Char
  | '\ufeff' :: rest => rest
  | text => text

/-- The members of the main table of a text, unless the text is not TOML. -/
def parse? (text : String) : Option Members :=
  let chars := joinBreaks (dropMark text.toList)
  (scanStatements (chars.length + 1) chars).bind Statement.membersOf?

end SplitTunnel.Toml
