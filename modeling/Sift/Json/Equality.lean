import Sift.Json.Basic

/-! # Strict equality

Two JSON values are strictly equal when they have the same type and the same content, numbers being
compared by value: `1` equals `1.0`. Objects are compared as tables, arrays element by element.
-/
namespace Sift.Json

mutual

def strictEq : Json → Json → Bool
  | .null, .null => true
  | .bool a, .bool b => a == b
  | .number a, .number b => a.compare? b == some .eq
  | .string a, .string b => a == b
  | .array xs, .array ys => strictEqItems xs ys
  | .object ms, .object ns => ms.length == ns.length && strictEqMembers ms ns
  | _, _ => false

def strictEqItems : List Json → List Json → Bool
  | [], [] => true
  | x :: xs, y :: ys => strictEq x y && strictEqItems xs ys
  | _, _ => false

/-- Whether every member of the first list has a strictly equal one under its key in the second. -/
def strictEqMembers : List (String × Json) → List (String × Json) → Bool
  | [], _ => true
  | (k, x) :: ms, ns =>
    (match ns.lookup k with
      | some y => strictEq x y
      | none => false) && strictEqMembers ms ns

end

end Sift.Json
