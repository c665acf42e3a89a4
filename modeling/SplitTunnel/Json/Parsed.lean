import SplitTunnel.Json.Writer
import SplitTunnel.SortedMap.Basic

namespace SplitTunnel.Json

/-!
# Parsed values

A value that is known, because it was written or parsed before, is read like one
that a text holds, with every string known to be a text.  In a value that was
parsed the members of an object are a map: they are met in ascending order of
their keys, each with the value that was given last.
-/

mutual

/-- A value that was written, as it is read back. -/
def readBack : WrittenValue → ReadValue
  | .null => .null
  | .boolean value => .boolean value
  | .number spelling => .number spelling
  | .string text => .string (some text)
  | .array elements => .array (readBackElements elements)
  | .object members => .object (readBackMembers members)

/-- The elements of an array, as they are read back. -/
def readBackElements : List WrittenValue → List ReadValue
  | [] => []
  | element :: rest => readBack element :: readBackElements rest

/-- The members of an object, as they are read back. -/
def readBackMembers : List (String × WrittenValue) → ReadMembers
  | [] => []
  | member :: rest => readBackMember member :: readBackMembers rest

/-- A key and its value, as they are read back. -/
def readBackMember : String × WrittenValue → Option String × ReadValue
  | (key, value) => (some key, readBack value)

end

mutual

/-- A value as it is met once it was parsed. -/
def sorted : WrittenValue → WrittenValue
  | .null => .null
  | .boolean value => .boolean value
  | .number spelling => .number spelling
  | .string text => .string text
  | .array elements => .array (sortedElements elements)
  | .object members => .object (SortedMap.ofList (sortedMembers members)).entries

/-- The elements of an array that was parsed. -/
def sortedElements : List WrittenValue → List WrittenValue
  | [] => []
  | element :: rest => sorted element :: sortedElements rest

/-- The members of an object, their values parsed, in the order of the text. -/
def sortedMembers : List (String × WrittenValue) → List (String × WrittenValue)
  | [] => []
  | member :: rest => sortedMember member :: sortedMembers rest

/-- A key and its value that was parsed. -/
def sortedMember : String × WrittenValue → String × WrittenValue
  | (key, value) => (key, sorted value)

end

end SplitTunnel.Json
