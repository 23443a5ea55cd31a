import Sift.Json.Basic

/-! # Polarity

Whether a collection operation keeps the records that pass a filter or those that fail it.
-/
namespace Sift

inductive Polarity
  | whitelist
  | blacklist
deriving DecidableEq

namespace Polarity

/-- Whether a record with this test result is kept. -/
def keeps : Polarity → Bool → Bool
  | whitelist, passed => passed
  | blacklist, passed => !passed

def toBool : Polarity → Bool
  | whitelist => true
  | blacklist => false

def ofBool (b : Bool) : Polarity := if b then whitelist else blacklist

def name : Polarity → String
  | whitelist => "whitelist"
  | blacklist => "blacklist"

def ofName? (s : String) : Option Polarity :=
  if s = "whitelist" then some whitelist
  else if s = "blacklist" then some blacklist
  else none

/-- The polarity that a JSON value states: its name, or an object with its name as the only key and null
under it. -/
def ofJson? : Json → Option Polarity
  | .string s => ofName? s
  | .object [(key, .null)] => ofName? key
  | _ => none

@[simp] theorem ofName?_name (p : Polarity) : ofName? p.name = some p := by cases p <;> rfl

end Polarity
end Sift
