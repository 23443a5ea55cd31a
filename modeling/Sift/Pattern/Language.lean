import Sift.Pattern.Cache
import Sift.Pattern.Matcher
import Sift.Pattern.Parser
import Sift.Pattern.Size

/-! # Regular expressions

A text is a pattern if it can be parsed and does not become too large. This is the language of patterns that
the program runs with; the operators and the filters work with any.
-/
namespace Sift

structure Pattern where
  node : Pattern.Node

namespace Pattern

def compile? (text : String) : Option Pattern := do
  let e ← Expr.parse? text
  let (node, _) ← e.node? .default
  if node.fits then some ⟨node⟩ else none

def isMatch (p : Pattern) (text : String) : Bool := p.node.isMatch text.toList

def language : PatternLanguage where
  Compiled := Pattern
  compile text := match compile? text with
    | some pattern => .ok pattern
    | none => .error "the pattern cannot be parsed or is too large"
  isMatch := isMatch

end Pattern
end Sift
