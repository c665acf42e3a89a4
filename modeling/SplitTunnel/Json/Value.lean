import SplitTunnel.Json.Token

namespace SplitTunnel.Json

/-!
# JSON values

The tokens of a text are gathered into a value with a stack of the containers
that are still open, so nesting has no limit.  A text that breaks off or goes
wrong still gives the part of its value that stands before the fault, because a
reader who asks for a certain shape complains about the first thing that does
not fit, wherever the text is broken later.
-/

/-- A value; the type of its strings says whether they are known to be texts. -/
inductive Value (σ : Type) where
  | null
  | boolean (value : Bool)
  | number (spelling : NumberText)
  | string (text : σ)
  | array (elements : List (Value σ))
  | object (members : List (σ × Value σ))
  deriving Repr

/-- A value as it was read, in which strings may be malformed. -/
abbrev ReadValue :=
  Value (Option String)

/-- The members of an object as they were read, in their order. -/
abbrev ReadMembers :=
  List (Option String × ReadValue)

/--
An open container with what was read of it, the last first; an object waits for
the value of a key.
-/
inductive Frame where
  | array (reversed : List ReadValue)
  | object (reversed : ReadMembers) (key : Option String)

/-- Add a value to the container that waits for it, and close the container. -/
def Frame.fill (frame : Frame) (value : ReadValue) : ReadValue :=
  match frame with
  | .array reversed => .array (value :: reversed).reverse
  | .object reversed key => .object ((key, value) :: reversed).reverse

/-- The container as far as it was read. -/
def Frame.partly (frame : Frame) : ReadValue :=
  match frame with
  | .array reversed => .array reversed.reverse
  | .object reversed _ => .object reversed.reverse

/-- What a reading waits for next, inside the containers that are open. -/
inductive Expectation where
  /-- A value. -/
  | value
  /-- The first element of an array, or its end. -/
  | firstElement
  /-- The first key of an object, or its end. -/
  | firstKey
  /-- A key after other members, the last first. -/
  | key (reversed : ReadMembers)
  /-- The colon after a key, behind other members. -/
  | colon (reversed : ReadMembers) (key : Option String)
  /-- What may follow a value that was read. -/
  | afterValue (value : ReadValue)

/-- A reading under way: the open containers, the innermost first. -/
structure ReadState where
  frames : List Frame
  expectation : Expectation

namespace ReadState

/-- The state before a text. -/
def start : ReadState where
  frames := []
  expectation := .value

/-- Read a token where a value may start. -/
def stepValue (frames : List Frame) (token : Token) : Option ReadState :=
  match token with
  | .null => some { frames := frames, expectation := .afterValue .null }
  | .boolean value => some { frames := frames, expectation := .afterValue (.boolean value) }
  | .number spelling => some { frames := frames, expectation := .afterValue (.number spelling) }
  | .string text? => some { frames := frames, expectation := .afterValue (.string text?) }
  | .beginArray => some { frames := frames, expectation := .firstElement }
  | .beginObject => some { frames := frames, expectation := .firstKey }
  | _ => none

/-- Read a token after a value, in the container around the value. -/
def stepAfterValue
    (frames : List Frame)
    (value : ReadValue)
    (token : Token) :
    Option ReadState :=
  match frames, token with
  | .array reversed :: outer, .comma =>
      some { frames := .array (value :: reversed) :: outer, expectation := .value }
  | .array reversed :: outer, .endArray =>
      some { frames := outer, expectation := .afterValue ((Frame.array reversed).fill value) }
  | .object reversed key :: outer, .comma =>
      some { frames := outer, expectation := .key ((key, value) :: reversed) }
  | .object reversed key :: outer, .endObject =>
      some {
        frames := outer
        expectation := .afterValue ((Frame.object reversed key).fill value)
      }
  | _, _ => none

/-- Read a token, unless it cannot stand where it does. -/
def step (state : ReadState) (token : Token) : Option ReadState :=
  match state.expectation with
  | .value =>
      stepValue state.frames token
  | .firstElement =>
      if token = .endArray then
        some { frames := state.frames, expectation := .afterValue (.array []) }
      else
        stepValue (.array [] :: state.frames) token
  | .firstKey =>
      match token with
      | .string key =>
          some { frames := state.frames, expectation := .colon [] key }
      | .endObject =>
          some { frames := state.frames, expectation := .afterValue (.object []) }
      | _ => none
  | .key reversed =>
      match token with
      | .string key =>
          some { frames := state.frames, expectation := .colon reversed key }
      | _ => none
  | .colon reversed key =>
      match token with
      | .colon =>
          some { frames := .object reversed key :: state.frames, expectation := .value }
      | _ => none
  | .afterValue value =>
      stepAfterValue state.frames value token

/-- The innermost value that was begun but not yet put into a container. -/
def innermost? (state : ReadState) : Option ReadValue :=
  match state.expectation with
  | .value => none
  | .firstElement => some (.array [])
  | .firstKey => some (.object [])
  | .key reversed => some (.object reversed.reverse)
  | .colon reversed _ => some (.object reversed.reverse)
  | .afterValue value => some value

/-- Close the open containers around a value. -/
def closeFrames : List Frame → Option ReadValue → Option ReadValue
  | [], value? => value?
  | frame :: outer, none => closeFrames outer (some frame.partly)
  | frame :: outer, some value => closeFrames outer (some (frame.fill value))

/-- The whole value as far as it was read. -/
def partly? (state : ReadState) : Option ReadValue :=
  closeFrames state.frames state.innermost?

end ReadState

/-- What a text holds: one value, or the part of a value before a fault. -/
inductive Reading where
  | complete (value : ReadValue)
  | broken (part? : Option ReadValue)

namespace Reading

/-- The reading of a text that ends in a state. -/
def atEnd (state : ReadState) : Reading :=
  match state.frames, state.expectation with
  | [], .afterValue value => .complete value
  | _, _ => .broken state.partly?

/-- Continue a reading over the tokens of a text. -/
def resume (state : ReadState) : List Token → Reading
  | [] => atEnd state
  | token :: rest =>
      match state.step token with
      | none =>
          .broken state.partly?
      | some next =>
          resume next rest

end Reading

/-- Read the value of a text. -/
def read (bytes : List UInt8) : Reading :=
  Reading.resume .start (tokens bytes)

end SplitTunnel.Json
