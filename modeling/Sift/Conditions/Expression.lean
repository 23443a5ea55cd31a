import Sift.Conditions.Spec
import Sift.Json.Codec

/-! # Condition expressions

An expression is a field, an operator and a value between bars. The field is trimmed and may be empty; the
operator must not be blank and is kept as it is; the value is all the rest, read as JSON if the whole of
it is JSON and taken as text otherwise.
-/
namespace Sift.ConditionSpec

/-- The value that a text stands for. -/
def valueOfText (J : JsonCodec) (text : String) : Json := (J.parse text).toOption.getD (.string text)

def parse (J : JsonCodec) (text : String) : Except ConditionsError ConditionSpec :=
  match Text.cut? '|' text.toList with
  | none => .error (.invalidExpression text)
  | some (field, rest) => match Text.cut? '|' rest with
    | none => .error (.invalidExpression text)
    | some (operator, value) =>
      if (Text.trimChars operator).isEmpty then .error (.invalidExpression text)
      else
        let field := Text.trimChars field
        .ok ⟨if field.isEmpty then none else some (String.ofList field), String.ofList operator,
          valueOfText J (String.ofList value)⟩

end Sift.ConditionSpec
