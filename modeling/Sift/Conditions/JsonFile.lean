import Sift.Conditions.Spec
import Sift.Json.Codec

/-! # Conditions in JSON

A document states conditions as an object with the keys `polarity` and `conditions`, or as an array of the
two in this order; both may be missing. No key stands twice and no other key is known. A condition is an
array of exactly three items.
-/
namespace Sift.ConditionsFile

def polarity? : Json → Option (Option Polarity)
  | .null => some none
  | v => (Polarity.ofJson? v).map some

/-- A condition as it is written in a document. -/
def spec? : Json → Option ConditionSpec
  | .array [.null, .string operator, value] => some ⟨none, operator, value.canonical⟩
  | .array [.string field, .string operator, value] => some ⟨some field, operator, value.canonical⟩
  | _ => none

def specs? : Json → Option (List ConditionSpec)
  | .array items => items.mapM spec?
  | _ => none

/-- Whether no key stands twice and all are known. -/
def knownKeys (keys : List String) : Bool :=
  keys.all (["polarity", "conditions"].contains ·) && decide keys.Nodup

/-- The file with a stated polarity and stated conditions, of which each may be missing. -/
def ofParts? (polarity specs : Option Json) : Option ConditionsFile := do
  let p ← (polarity.map polarity?).getD (some none)
  let s ← (specs.map specs?).getD (some [])
  some ⟨p, s⟩

/-- What a document states; its objects keep their members as they are written. -/
def ofJson? : Json → Option ConditionsFile
  | .object ms =>
    if knownKeys (ms.map Prod.fst) then ofParts? (ms.lookup "polarity") (ms.lookup "conditions")
    else none
  | .array [] => ofParts? none none
  | .array [p] => ofParts? (some p) none
  | .array [p, s] => ofParts? (some p) (some s)
  | _ => none

def parseJson (J : JsonCodec) (text : String) : Except ConditionsError ConditionsFile :=
  match (J.read text).toOption.bind ofJson? with
  | some file => .ok file
  | none => .error (.invalidJson (J.refusal text))

end Sift.ConditionsFile
