import Sift.Condition
import Sift.Polarity

/-! # Written conditions

A condition as it is written in a file or an argument: a field or none, an operator name and a JSON value.
A file states a list of them and perhaps a polarity.
-/
namespace Sift

structure ConditionSpec where
  field : Option String
  operator : String
  value : Json

/-- The condition that is meant: without a field it is about the record itself, and an array is a list of
candidates. -/
def ConditionSpec.toCondition {σ : Type} (spec : ConditionSpec) : Condition σ :=
  ⟨spec.field.getD "", .named spec.operator, .ofJson spec.value⟩

structure ConditionsFile where
  polarity : Option Polarity
  specs : List ConditionSpec

namespace ConditionsFile

def empty : ConditionsFile := ⟨none, []⟩

def conditions {σ : Type} (file : ConditionsFile) : List (Condition σ) :=
  file.specs.map ConditionSpec.toCondition

end ConditionsFile

inductive ConditionsError
  | unreadable (path cause : String)
  /-- A JSON file is malformed or has another shape. -/
  | invalidJson (reason : String)
  /-- A YAML file is malformed or has another shape. -/
  | invalidYaml (reason : String)
  /-- An expression does not have its three parts. -/
  | invalidExpression (text : String)
deriving DecidableEq

def ConditionsError.message : ConditionsError → String
  | unreadable path cause => "cannot read " ++ path ++ ": " ++ cause
  | invalidJson reason => "invalid JSON conditions: " ++ reason
  | invalidYaml reason => "invalid YAML conditions: " ++ reason
  | invalidExpression text =>
    "invalid condition '" ++ text ++ "': expected \"field|operator|value\""

/-- The error underneath, if there is one. -/
def ConditionsError.cause? : ConditionsError → Option String
  | unreadable _ cause => some cause
  | invalidJson reason => some reason
  | invalidYaml reason => some reason
  | invalidExpression _ => none

end Sift
