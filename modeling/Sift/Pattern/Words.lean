import Sift.Builtin

/-! # Words as patterns

The least regular expressions are words of letters and digits, which match where they occur in a text, or at
its start only if a circumflex stands in front of them. They are patterns enough to compute with.
-/
namespace Sift

/-- What is said of a text that begins with a bracket and does not close it. -/
def unclosed (text : String) : String :=
  "regex parse error:\n    " ++ text ++ "\n    ^\nerror: unclosed " ++
    if text.toList.head? = some '[' then "character class" else "group"

/-- A word, and whether it is looked for at the start only. -/
def PatternLanguage.words : PatternLanguage where
  Compiled := List Char × Bool
  compile text :=
    let atStart := text.toList.head? == some '^'
    let word := if atStart then text.toList.tail else text.toList
    if word.all Char.isAlphanum then .ok (word, atStart) else .error (unclosed text)
  isMatch p text := if p.2 then p.1.isPrefixOf text.toList else Builtin.isInfix p.1 text.toList

end Sift
