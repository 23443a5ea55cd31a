import Sift.Json.Printer
import Sift.Json.Reader
import Sift.Pattern.Language
import Sift.Pipeline
import Sift.Yaml.Conditions
import Sift.Yaml.Printer

/-! # The libraries of the program

What the program runs with. Nothing else depends on which patterns there are and how texts are laid out.
-/
namespace Sift

def Json.codec : JsonCodec where
  read text := match read? text with
    | some v => .ok v
    | none => .error "the text is no JSON"
  refusal _ := "the text is no conditions file in JSON"
  compact := toCompact
  pretty := toPretty

def Yaml.codec : YamlCodec where
  readConditions text := match conditions? text with
    | some file => .ok file
    | none => .error "the text is no conditions file in YAML"
  write := write

def Libraries.bundled : Libraries := ⟨Pattern.language, Json.codec, Yaml.codec⟩

end Sift
