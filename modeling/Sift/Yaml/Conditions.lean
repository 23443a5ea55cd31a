import Sift.Conditions.Spec
import Sift.Yaml.Reader

/-! # Conditions in YAML documents

A document states conditions as a mapping with the keys `polarity` and `conditions`; one that holds nothing
but comments says nothing. Texts may be written as any scalar, and null is a plain one.
-/
namespace Sift.Yaml

/-- Whether a node is a place where nothing is written. -/
def isMissing : Node → Bool
  | .scalar true text => text.isEmpty
  | _ => false

/-- Whether a node is a plain scalar for null. -/
def isNull : Node → Bool
  | .scalar true text => text.isEmpty || isNullWord text.toList
  | _ => false

def nodeText? : Node → Option String
  | .scalar _ text => some text
  | _ => none

def nodePolarity? (node : Node) : Option (Option Polarity) :=
  if isNull node then some none else ((nodeText? node).bind Polarity.ofName?).map some

/-- A condition as it is written in a document. -/
def nodeSpec? : Node → Option ConditionSpec
  | .sequence [field, operator, value] => do
    let f ← if isNull field then some none else (nodeText? field).map some
    let o ← nodeText? operator
    let v ← value.toJson?
    some ⟨f, o, v⟩
  | _ => none

/-- A list of conditions; where nothing is written there is none. -/
def nodeSpecs? (node : Node) : Option (List ConditionSpec) :=
  match node with
  | .sequence items => items.mapM nodeSpec?
  | node => if isMissing node then some [] else none

def ofNode? (node : Node) : Option ConditionsFile :=
  match node with
  | .mapping entries => do
    let members ← entries.mapM fun (key, value) => (nodeText? key).map (·, value)
    if !(members.map Prod.fst).all (["polarity", "conditions"].contains ·) then none
    if !decide (members.map Prod.fst).Nodup then none
    let p ← ((members.lookup "polarity").map nodePolarity?).getD (some none)
    let s ← ((members.lookup "conditions").map nodeSpecs?).getD (some [])
    some ⟨p, s⟩
  | node => if isMissing node then some .empty else none

/-- The conditions that a text states. -/
def conditions? (text : String) : Option ConditionsFile :=
  match read? text with
  | some (some node) => ofNode? node
  | some none => some .empty
  | none => none

end Sift.Yaml
