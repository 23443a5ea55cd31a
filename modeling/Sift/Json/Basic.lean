import Sift.Number

/-! # JSON values

A JSON value keeps the difference between integers and doubles. The members of an object stand in a
list; in a canonical value their keys are distinct and in increasing order, at every depth, so that two
canonical objects with the same members are the same value.
-/
namespace Sift

inductive Json
  | null
  | bool (b : Bool)
  | number (n : Number)
  | string (s : String)
  | array (items : List Json)
  | object (members : List (String × Json))

namespace Json

inductive Kind
  | null
  | bool
  | number
  | string
  | array
  | object
deriving DecidableEq

def kind : Json → Kind
  | .null => .null
  | .bool _ => .bool
  | .number _ => .number
  | .string _ => .string
  | .array _ => .array
  | .object _ => .object

/-- The elements of an array; other values have none. -/
def items : Json → List Json
  | .array xs => xs
  | _ => []

/-- Adds a member at its place in the order of the keys, over an earlier one with the same key. -/
def insertMember (key : String) (value : Json) : List (String × Json) → List (String × Json)
  | [] => [(key, value)]
  | (k, v) :: rest =>
    if key < k then (key, value) :: (k, v) :: rest
    else if key = k then (key, value) :: rest
    else (k, v) :: insertMember key value rest

/-- The members in the order of their keys, the last one of each key. -/
def sortMembers (members : List (String × Json)) : List (String × Json) :=
  members.foldl (fun sorted (key, value) => insertMember key value sorted) []

mutual

/-- The value with the members of every object sorted and without repeated keys. -/
def canonical : Json → Json
  | .array xs => .array (canonicalItems xs)
  | .object ms => .object (sortMembers (canonicalMembers ms))
  | v => v

def canonicalItems : List Json → List Json
  | [] => []
  | x :: xs => canonical x :: canonicalItems xs

def canonicalMembers : List (String × Json) → List (String × Json)
  | [] => []
  | (k, v) :: ms => (k, canonical v) :: canonicalMembers ms

end

mutual

/-- Numbers are numbers of JSON, and the keys of every object are increasing. -/
def IsCanonical : Json → Prop
  | .number n => n.IsJson
  | .array xs => ItemsCanonical xs
  | .object ms => (ms.map Prod.fst).Pairwise (· < ·) ∧ MembersCanonical ms
  | _ => True

def ItemsCanonical : List Json → Prop
  | [] => True
  | x :: xs => IsCanonical x ∧ ItemsCanonical xs

def MembersCanonical : List (String × Json) → Prop
  | [] => True
  | (_, v) :: ms => IsCanonical v ∧ MembersCanonical ms

end

end Json
end Sift
