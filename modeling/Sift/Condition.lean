import Sift.Registry
import Sift.Coercion
import Sift.Path

/-! # Conditions

A condition is a field path, an operator and a value or a list of candidate values. Its candidates are
tried in order until one meets the field; a negated name inverts the outcome of the whole group. A name
that the registry does not hold meets nothing, before negation. A failing candidate ends the evaluation.
-/
namespace Sift

inductive ConditionValue
  | one (value : Json)
  /-- Candidates, one of which has to meet the field. -/
  | any (values : List Json)

namespace ConditionValue

/-- The candidates in the order in which they are tried. -/
def candidates : ConditionValue → List Json
  | one v => [v]
  | any vs => vs

/-- The elements of an array are candidates; any other value stands for itself. -/
def ofJson : Json → ConditionValue
  | .array xs => any xs
  | v => one v

/-- Whether both have the same candidates in the same order, up to strict equality. -/
def sameCandidates (a b : ConditionValue) : Bool := Json.strictEqItems a.candidates b.candidates

end ConditionValue

/-- One requirement on a record. The empty path is the record itself. -/
structure Condition (σ : Type) where
  field : String
  operator : Operator σ
  value : ConditionValue

variable {σ : Type}

/-- Tries the candidates in order, up to the first one that meets the field. -/
def anyCandidate (predicate : Predicate σ) (field : Option Json) : List Json → Eval σ Bool
  | [] => pure false
  | v :: vs => do
    if ← predicate.call field v then pure true else anyCandidate predicate field vs

/-- Evaluates an operator on a field, with the names of a registry. -/
def evaluate (registry : Registry σ) (field : Option Json) (operator : Operator σ)
    (value : ConditionValue) : Eval σ Bool :=
  match operator with
  | .function predicate => anyCandidate predicate field value.candidates
  | .named text =>
    let parsed := OperatorName.parse text
    match registry.lookup? parsed.name with
    | none => pure parsed.negated
    | some predicate => do
      let met ← anyCandidate predicate field value.candidates
      pure (met != parsed.negated)

def Condition.matches (c : Condition σ) (registry : Registry σ) (record : Json) : Eval σ Bool :=
  evaluate registry (record.resolve c.field).value? c.operator c.value

end Sift
