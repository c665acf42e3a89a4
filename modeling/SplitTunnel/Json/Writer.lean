import SplitTunnel.Json.Value

namespace SplitTunnel.Json

/-!
# Writing JSON

A value is written in one line without blanks, or in lines with two more spaces
of indentation inside each container.  An empty container is written as its two
brackets in both layouts.
-/

/-- A value that can be written: its strings are texts. -/
abbrev WrittenValue :=
  Value String

mutual

/-- A value in one line. -/
def compact : WrittenValue → List Char
  | .null => "null".toList
  | .boolean value => (toString value).toList
  | .number spelling => spelling.toChars
  | .string text => quote text
  | .array elements => '[' :: (compactElements elements ++ [']'])
  | .object members => '\x7b' :: (compactMembers members ++ ['\x7d'])

/-- The elements of an array with commas between them. -/
def compactElements : List WrittenValue → List Char
  | [] => []
  | [element] => compact element
  | element :: rest => compact element ++ ',' :: compactElements rest

/-- The members of an object with commas between them. -/
def compactMembers : List (String × WrittenValue) → List Char
  | [] => []
  | [member] => compactMember member
  | member :: rest => compactMember member ++ ',' :: compactMembers rest

/-- A key and its value. -/
def compactMember : String × WrittenValue → List Char
  | (key, value) => quote key ++ ':' :: compact value

end

/-- The start of a line at a depth of containers. -/
def indentation (depth : Nat) : List Char :=
  '\n' :: List.replicate (2 * depth) ' '

mutual

/-- A value in lines, inside a number of containers. -/
def pretty (depth : Nat) : WrittenValue → List Char
  | .null => "null".toList
  | .boolean value => (toString value).toList
  | .number spelling => spelling.toChars
  | .string text => quote text
  | .array [] => ['[', ']']
  | .array elements =>
      '[' :: (prettyElements (depth + 1) elements ++ indentation depth ++ [']'])
  | .object [] => ['\x7b', '\x7d']
  | .object members =>
      '\x7b' :: (prettyMembers (depth + 1) members ++ indentation depth ++ ['\x7d'])

/-- The elements of an array, each in a line of its own. -/
def prettyElements (depth : Nat) : List WrittenValue → List Char
  | [] => []
  | [element] => indentation depth ++ pretty depth element
  | element :: rest =>
      indentation depth ++ pretty depth element ++ ',' :: prettyElements depth rest

/-- The members of an object, each in a line of its own. -/
def prettyMembers (depth : Nat) : List (String × WrittenValue) → List Char
  | [] => []
  | [member] => indentation depth ++ prettyMember depth member
  | member :: rest =>
      indentation depth ++ prettyMember depth member ++ ',' :: prettyMembers depth rest

/-- A key and its value, with a space between them. -/
def prettyMember (depth : Nat) : String × WrittenValue → List Char
  | (key, value) => quote key ++ ':' :: ' ' :: pretty depth value

end

/-- A value in one line, as a text. -/
def compactText (value : WrittenValue) : String :=
  String.ofList (compact value)

/-- A value in lines, as a text. -/
def prettyText (value : WrittenValue) : String :=
  String.ofList (pretty 0 value)

/-- The bytes of a value in one line. -/
def encode (value : WrittenValue) : List UInt8 :=
  Text.encodeChars (compact value)

end SplitTunnel.Json
