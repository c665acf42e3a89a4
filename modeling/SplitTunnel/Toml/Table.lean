namespace SplitTunnel.Toml

/-!
# Tables

A table is filled by assignments and headers.  A key may be given a value once,
and a table may be opened once: a table that a longer key or header brought into
being can still be opened or filled, but only in the way it came into being.
Every function here gives nothing where these rules are broken.
-/

/-- How a table came into being. -/
inductive TableKind where
  /-- Written in braces as a value, and complete. -/
  | closed
  /-- Opened by its own header. -/
  | opened
  /-- Implied by the header of a table inside it. -/
  | implied
  /-- Implied by a dotted key. -/
  | dotted
  deriving Repr, DecidableEq

/-- What a key stands for. -/
inductive Node where
  | text (value : String)
  /-- A number, a boolean or a date. -/
  | scalar
  | array (elements : List Node)
  | table (kind : TableKind) (members : List (String × Node))
  /-- Tables that were opened one after the other under one header. -/
  | tables (elements : List (List (String × Node)))
  deriving Repr

/-- Keys and what they stand for, in the order of their first mention. -/
abbrev Members :=
  List (String × Node)

namespace Members

/-- Change what a key stands for; `none` stands for a key that is not there. -/
def change
    (update : Option Node → Option Node)
    (key : String) :
    Members → Option Members
  | [] => (update none).map fun node => [(key, node)]
  | (stored, node) :: rest =>
      if stored = key then
        (update (some node)).map fun changed => (stored, changed) :: rest
      else
        (change update key rest).map fun changed => (stored, node) :: changed

/-- Change the last of several tables. -/
def changeLast (update : Members → Option Members) : List Members → Option (List Members)
  | [] => none
  | [last] => (update last).map fun changed => [changed]
  | first :: rest => (changeLast update rest).map (first :: ·)

/-- Go into the table under a key on the way of a header, and change it. -/
def enterByHeader (update : Members → Option Members) : Option Node → Option Node
  | none => (update []).map (Node.table .implied)
  | some (.table .closed _) => none
  | some (.table kind members) => (update members).map (Node.table kind)
  | some (.tables elements) => (changeLast update elements).map Node.tables
  | some _ => none

/-- Go into the table under a key on the way of a dotted key, and change it. -/
def enterByKey (update : Members → Option Members) : Option Node → Option Node
  | none => (update []).map (Node.table .dotted)
  | some (.table .dotted members) => (update members).map (Node.table .dotted)
  | some (.table .implied members) => (update members).map (Node.table .implied)
  | some (.tables elements) => (changeLast update elements).map Node.tables
  | some _ => none

/-- Go into the table that a dotted key fills, and change it. -/
def enterToFill (update : Members → Option Members) : Option Node → Option Node
  | none => (update []).map (Node.table .dotted)
  | some (.table .dotted members) => (update members).map (Node.table .dotted)
  | some _ => none

/-- Give a key its value. -/
def assign (key : String) (value : Node) : Members → Option Members :=
  change
    (fun old? =>
      match old? with
      | none => some value
      | some _ => none)
    key

/-- Give a dotted key its value. -/
def assignDotted : List String → Node → Members → Option Members
  | [], _ => fun _ => none
  | [key], value => assign key value
  | [key, last], value => change (enterToFill (assign last value)) key
  | key :: rest, value => change (enterByKey (assignDotted rest value)) key

/-- Change the members that the last header opened. -/
def atHeader (update : Members → Option Members) : List String → Members → Option Members
  | [] => update
  | key :: rest => change (enterByHeader (atHeader update rest)) key

/-- Open the table of a header. -/
def openTable (path : List String) : Members → Option Members :=
  match path.getLast? with
  | none => fun _ => none
  | some last =>
      atHeader
        (change
          (fun old? =>
            match old? with
            | none => some (.table .opened [])
            | some (.table .implied members) => some (.table .opened members)
            | some _ => none)
          last)
        path.dropLast

/-- Open one more table of a header for several. -/
def openNext (path : List String) : Members → Option Members :=
  match path.getLast? with
  | none => fun _ => none
  | some last =>
      atHeader
        (change
          (fun old? =>
            match old? with
            | none => some (.tables [[]])
            | some (.tables elements) => some (.tables (elements ++ [[]]))
            | some _ => none)
          last)
        path.dropLast

end Members

/-- A line of a text that is not empty. -/
inductive Statement where
  | assignment (key : List String) (value : Node)
  | header (path : List String)
  | repeatedHeader (path : List String)
  deriving Repr

namespace Statement

/-- Do what a statement says, below the header that is open. -/
def apply : List String × Members → Statement → Option (List String × Members)
  | (current, members), .assignment key value =>
      (Members.atHeader (Members.assignDotted key value) current members).map (current, ·)
  | (_, members), .header path =>
      (Members.openTable path members).map (path, ·)
  | (_, members), .repeatedHeader path =>
      (Members.openNext path members).map (path, ·)

/-- The members that statements make together. -/
def membersOf? (statements : List Statement) : Option Members :=
  (statements.foldlM apply ([], [])).map Prod.snd

end Statement

end SplitTunnel.Toml
