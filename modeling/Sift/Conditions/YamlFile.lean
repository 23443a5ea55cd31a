import Sift.Conditions.Spec

/-! # Conditions in YAML

A text that is blank says nothing; what any other text states is left to a codec.
-/
namespace Sift

structure YamlCodec where
  /-- The conditions that a text states, or why it states none. -/
  readConditions : String → Except String ConditionsFile
  write : Json → String

def ConditionsFile.parseYaml (Y : YamlCodec) (text : String) : Except ConditionsError ConditionsFile :=
  if (Text.trimChars text.toList).isEmpty then .ok .empty
  else (Y.readConditions text).mapError .invalidYaml

end Sift
