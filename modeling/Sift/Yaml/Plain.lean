import Sift.Json.Basic

/-! # Plain scalars

What a YAML scalar without quotes denotes: null, a boolean, an integer in one of four radices, a double,
or else the text itself. Digits with a zero in front are a text.
-/
namespace Sift.Yaml

def isNullWord (cs : List Char) : Bool := ["~", "null", "Null", "NULL"].contains (String.ofList cs)

def boolOfWord? (cs : List Char) : Option Bool :=
  let word := String.ofList cs
  if ["true", "True", "TRUE"].contains word then some true
  else if ["false", "False", "FALSE"].contains word then some false
  else none

/-- A text without one sign in front. -/
def dropSign : List Char → List Char
  | '-' :: cs => cs
  | '+' :: cs => cs
  | cs => cs

/-- Whether a text is made of digits but is no number, because a zero stands in front of them. -/
def isZeroPadded (cs : List Char) : Bool :=
  match dropSign cs with
  | '0' :: c :: rest => (c :: rest).all Char.isDigit
  | _ => false

/-- The integer without its sign: decimal, or with a mark for its radix. -/
def magnitude? : List Char → Option Nat
  | '0' :: 'x' :: digits => natOfDigits? 16 digits
  | '0' :: 'o' :: digits => natOfDigits? 8 digits
  | '0' :: 'b' :: digits => natOfDigits? 2 digits
  | cs => if isZeroPadded cs then none else natOfDigits? 10 cs

def integer? : List Char → Option Int
  | '-' :: cs => (magnitude? cs).map fun n => -(n : Int)
  | '+' :: cs => (magnitude? cs).map fun n => (n : Int)
  | cs => (magnitude? cs).map fun n => (n : Int)

/-- Whether a text spells what has no finite value; JSON has null for it. -/
def isNonFinite (cs : List Char) : Bool :=
  [".inf", ".Inf", ".INF", "+.inf", "+.Inf", "+.INF", "-.inf", "-.Inf", "-.INF", ".nan", ".NaN", ".NAN"].contains
    (String.ofList cs)

/-- What a text that spells no integer denotes. -/
def nonInteger (cs : List Char) : Json :=
  if isZeroPadded cs then .string (String.ofList cs)
  else if isNonFinite cs then .null
  else match (Numeral.parse? cs).map Numeral.toBinary64 with
    | some x => if x.isFinite then .number (.float x) else .string (String.ofList cs)
    | none => .string (String.ofList cs)

/-- What a plain scalar denotes. An integer that no word holds is refused, unless it is so large that it
is read as a double. -/
def plain? (cs : List Char) : Option Json :=
  if cs.isEmpty || isNullWord cs then some .null
  else match boolOfWord? cs with
    | some b => some (.bool b)
    | none => match integer? cs with
      | none => some (nonInteger cs)
      | some i => match Number.ofInt? i with
        | some n => some (.number n)
        | none => if -(Nat.pow 2 127 : Int) ≤ i && i < Nat.pow 2 128 then none else some (nonInteger cs)

end Sift.Yaml
