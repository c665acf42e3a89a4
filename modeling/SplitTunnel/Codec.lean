import SplitTunnel.Json.Typed

namespace SplitTunnel

/-!
# Codecs

A store keeps a value as bytes.  How the value becomes bytes is up to a codec,
which may refuse a value, and may refuse bytes.
-/

/-- Why a codec refused a value or bytes. -/
inductive CodecFault where
  | encode (reason : String)
  | decode (reason : String)
  deriving Repr, DecidableEq

/-- What is said about a refusal. -/
def CodecFault.message : CodecFault → String
  | .encode reason => s!"cannot encode value: {reason}"
  | .decode reason => s!"cannot decode value: {reason}"

/-- How values become bytes and bytes become values. -/
structure Codec (α : Type) where
  encode : α → Except CodecFault (List UInt8)
  decode : List UInt8 → Except CodecFault α

namespace Codec

/-- The codec of a type with a JSON form. -/
def json (α : Type) [Json.Typed α] : Codec α where
  encode value := .ok (Json.encodeTyped value)
  decode bytes := (Json.decodeTyped bytes).mapError fun fault => .decode fault.message

end Codec

end SplitTunnel
