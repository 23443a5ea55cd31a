import Sift.Predicate
import Sift.Text.Blank

/-! # Operators

A condition names its operator or carries a predicate. A name may have a negation marker in front, an
exclamation mark or the word `not` and a space; blanks around the name and after the marker do not count.
Only one marker is taken off.
-/
namespace Sift

/-- How a condition refers to its operator. -/
inductive Operator (σ : Type)
  /-- A name as it is written, perhaps negated. -/
  | named (text : String)
  | function (predicate : Predicate σ)

structure OperatorName where
  name : String
  negated : Bool
deriving DecidableEq

/-- The characters after a negation marker, if there is one in front. The letters of the word may have
either case. -/
def stripMarker : List Char → Option (List Char)
  | '!' :: rest => some rest
  | n :: o :: t :: ' ' :: rest =>
    if (n = 'n' || n = 'N') && (o = 'o' || o = 'O') && (t = 't' || t = 'T') then some rest else none
  | _ => none

namespace OperatorName

/-- Reads a written name; every text has a reading. -/
def parse (text : String) : OperatorName :=
  let cs := Text.trimChars text.toList
  match stripMarker cs with
  | some rest => ⟨String.ofList (Text.trimChars rest), true⟩
  | none => ⟨String.ofList cs, false⟩

/-- Whether a written name has a negation marker. -/
def isNegated (text : String) : Bool := (stripMarker (Text.trimChars text.toList)).isSome

end OperatorName

namespace Operator
variable {σ : Type}

/-- Whether two operators are written alike, or are the same predicate. -/
def same : Operator σ → Operator σ → Bool
  | named a, named b => a == b
  | function p, function q => p.same q
  | _, _ => false

def text : Operator σ → String
  | named text => text
  | function _ => "<function>"

def isNamed : Operator σ → Bool
  | named _ => true
  | function _ => false

end Operator
end Sift
