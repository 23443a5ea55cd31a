import Sift.Yaml.Plain

/-! # Nodes

A document is a tree of scalars, sequences and mappings. A scalar without quotes may denote any type of
value; one in quotes is a text.
-/
namespace Sift.Yaml

inductive Node
  /-- A scalar, and whether it stands without quotes. -/
  | scalar (plain : Bool) (text : String)
  | sequence (items : List Node)
  | mapping (entries : List (Node × Node))

/-- The scalar of a place where nothing is written. -/
def Node.missing : Node := .scalar true ""

mutual

def Node.depth : Node → Nat
  | .scalar _ _ => 0
  | .sequence items => Node.itemsDepth items + 1
  | .mapping entries => Node.entriesDepth entries + 1

def Node.itemsDepth : List Node → Nat
  | [] => 0
  | x :: xs => max x.depth (Node.itemsDepth xs)

def Node.entriesDepth : List (Node × Node) → Nat
  | [] => 0
  | (key, x) :: rest => max (max key.depth x.depth) (Node.entriesDepth rest)

end

mutual

/-- The JSON value of a node. The keys of mappings are scalars; what they denote does not matter. -/
def Node.toJson? : Node → Option Json
  | .scalar true text => plain? text.toList
  | .scalar false text => some (.string text)
  | .sequence items => (Node.itemsToJson? items).map .array
  | .mapping entries => (Node.entriesToJson? entries).map fun ms => .object (Json.sortMembers ms)

def Node.itemsToJson? : List Node → Option (List Json)
  | [] => some []
  | x :: xs => do
    let v ← x.toJson?
    let vs ← Node.itemsToJson? xs
    some (v :: vs)

def Node.entriesToJson? : List (Node × Node) → Option (List (String × Json))
  | [] => some []
  | (.scalar _ key, x) :: rest => do
    let v ← x.toJson?
    let ms ← Node.entriesToJson? rest
    some ((key, v) :: ms)
  | _ :: _ => none

end

end Sift.Yaml
