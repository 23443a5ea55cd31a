/-! # Patterns and their cache

Which texts are patterns, and what they match, is left to a language of patterns. A cache keeps compiled
patterns under their texts; when it is full it starts over, and what does not compile leaves it as it is.
-/
namespace Sift

structure PatternLanguage where
  Compiled : Type
  /-- The pattern that a text is, or why it is none. -/
  compile : String → Except String Compiled
  isMatch : Compiled → String → Bool

structure PatternCache (L : PatternLanguage) where
  entries : List (String × L.Compiled)

namespace PatternCache
variable {L : PatternLanguage}

def empty : PatternCache L := ⟨[]⟩

def limit : Nat := 256

/-- The compiled pattern of a text, and the cache that holds it. -/
def fetch (cache : PatternCache L) (text : String) : Except String (L.Compiled × PatternCache L) :=
  match cache.entries.lookup text with
  | some pattern => .ok (pattern, cache)
  | none => (L.compile text).map fun pattern =>
    let kept := if limit ≤ cache.entries.length then [] else cache.entries
    (pattern, ⟨(text, pattern) :: kept⟩)

end PatternCache
end Sift
