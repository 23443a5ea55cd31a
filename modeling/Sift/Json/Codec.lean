import Sift.Json.Basic

/-! # Texts of JSON values

How values are read and written is left to a codec. It reads a value as it is written; where a value is asked
for, it is the canonical one.
-/
namespace Sift

structure JsonCodec where
  /-- The value that a text denotes, with the members of objects as they are written, or what is wrong with
  the text. -/
  read : String → Except String Json
  /-- What is wrong with a text that is no conditions file. -/
  refusal : String → String
  compact : Json → String
  pretty : Json → String

namespace JsonCodec

/-- The canonical value that a text denotes. -/
def parse (J : JsonCodec) (text : String) : Except String Json := (J.read text).map Json.canonical

/-- The pretty text of a value, with the line break that ends an output, is read back as the value. -/
def ReadsBack (J : JsonCodec) (v : Json) : Prop := J.parse (J.pretty v ++ "\n") = .ok v

end JsonCodec
end Sift
