import SplitTunnel.Text.Blank

namespace SplitTunnel

/-!
# Choices written by name

Categories and tunnel modes are small choices, each value of which has a name.
A name in a setting or a message is read exactly; a name given by a user may be
surrounded by blanks and written in capital letters.
-/

/-- A finite choice whose values have names. -/
class Named (α : Type) where
  values : List α
  name : α → String

namespace Named

variable [Named α]

/-- The value that has exactly this name. -/
def ofName? (text : String) : Option α :=
  values.find? fun value => name value == text

/-- The value whose name a user wrote, whatever the case and the blanks around it. -/
def ofUserText? (text : String) : Option α :=
  ofName? (String.ofList (Text.lowercase (Text.trim text.toList)))

end Named

end SplitTunnel
