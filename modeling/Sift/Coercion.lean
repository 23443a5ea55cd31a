import Sift.Json.Equality
import Sift.Text.Blank

/-! # Coercions

How values of different JSON types are compared. A value may have a numeric reading and a textual
reading; the order and the coercing equality of two values are defined through them. A field is a value
or nothing, for a record without the field.
-/
namespace Sift

/-- The integer that an optional sign and decimal digits denote. -/
def integerOfText? (cs : List Char) : Option Int :=
  let (negative, digits) := Numeral.takeSign cs
  (natOfDigits? 10 digits).map fun n => if negative then -(n : Int) else n

/-- The digits and the radix of a literal with a radix mark. -/
def radixLiteral? : List Char → Option (Nat × List Char)
  | '0' :: mark :: digits =>
    if mark = 'x' || mark = 'X' then some (16, digits)
    else if mark = 'o' || mark = 'O' then some (8, digits)
    else if mark = 'b' || mark = 'B' then some (2, digits)
    else none
  | _ => none

namespace Number

/-- The number that a trimmed text denotes: a decimal integer that a word holds, a radix literal that a
word holds, or the nearest double of a numeral. -/
def ofTrimmed? (cs : List Char) : Option Number :=
  match (integerOfText? cs).bind ofInt? with
  | some n => some n
  | none => match radixLiteral? cs with
    | some (radix, digits) => (natOfDigits? radix digits).bind fun n => ofInt? n
    | none => (Numeral.parse? cs).map fun x => float x.toBinary64

/-- The numeric reading of a text. Blanks around it do not count, and blanks alone read as zero. -/
def ofText? (s : String) : Option Number :=
  match Text.trimChars s.toList with
  | [] => some (signed 0)
  | cs => ofTrimmed? cs

end Number

namespace Json

/-- The numeric reading of a value. Arrays and objects have none, nor do texts that are no numerals. -/
def toNumber? : Json → Option Number
  | .null => some (.signed 0)
  | .bool b => some (.signed (if b then 1 else 0))
  | .number n => some n
  | .string s => Number.ofText? s
  | .array _ => none
  | .object _ => none

/-- The textual reading of a value. Arrays and objects have none. -/
def toText? : Json → Option String
  | .null => some "null"
  | .bool b => some (if b then "true" else "false")
  | .number n => some n.toText
  | .string s => some s
  | .array _ => none
  | .object _ => none

/-- The order of a field against a value: two texts in the order of their characters, any other pair by
their numeric readings. -/
def order? (field : Option Json) (value : Json) : Option Ordering :=
  match field, value with
  | some (.string a), .string b => some (compare a b)
  | some x, y => match x.toNumber?, y.toNumber? with
    | some a, some b => a.compare? b
    | _, _ => none
  | none, _ => none

/-- Strict equality of a field and a value; nothing equals a field that is not there. -/
def fieldStrictEq (field : Option Json) (value : Json) : Bool :=
  match field with
  | some x => strictEq x value
  | none => false

/-- Whether a value is an array or an object. -/
def isContainer (v : Json) : Bool := v.kind == .array || v.kind == .object

/-- Coercing equality. A missing field and null equal null and nothing else; values of one type are
compared strictly, and scalars of different types by their numeric readings. -/
def looseEq (field : Option Json) (value : Json) : Bool :=
  match field with
  | none => value.kind == .null
  | some x =>
    if x.kind == value.kind then strictEq x value
    else if x.kind == .null || value.kind == .null then false
    else if x.isContainer || value.isContainer then false
    else order? (some x) value == some .eq

end Json
end Sift
