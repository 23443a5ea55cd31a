import Sift.Proofs.Evaluation.Calls
import Sift.Proofs.Registry.Growth

/-! # Naming the predicates of a registry

Every predicate of a reachable registry can be named by an operator, with and without a marker and with
blanks wherever they do not count. A text that has a second marker, or nothing, behind its marker names no
predicate at all.
-/
namespace Sift.Registry
open Text OperatorName

variable {σ : Type} {r : Registry σ}

theorem Tidy.lookup?_eq_some (h : r.Tidy) {name : String} {p : Predicate σ} (hp : (name, p) ∈ r.entries) :
    r.lookup? name = some p := by
  rw [lookup?, (h.proper _ hp).trim_eq]
  exact h.lookup_eq_some_iff.mpr hp

/-- A name that is not proper once it is trimmed names nothing. -/
theorem Tidy.lookup?_eq_none (h : r.Tidy) {name : String} (hn : ¬ IsProper (trim name)) :
    r.lookup? name = none :=
  lookup_eq_none_iff.mpr fun ⟨_, hp⟩ => hn (h.proper _ hp)

variable {n : String} {p : Predicate σ}

theorem Tidy.reading_pad (h : r.Tidy) (hp : (n, p) ∈ r.entries) {u x : String} (hu : AllBlank u)
    (hx : AllBlank x) : (Operator.named (u ++ n ++ x)).reading r = (some p, false) := by
  simp only [Operator.reading, (h.proper _ hp).parse_pad hu hx, h.lookup?_eq_some hp]

theorem Tidy.reading_marked_pad (h : r.Tidy) (hp : (n, p) ∈ r.entries) {u m w x : String}
    (hm : IsMarker m) (hu : AllBlank u) (hw : AllBlank w) (hx : AllBlank x) :
    (Operator.named (u ++ m ++ w ++ n ++ x)).reading r = (some p, true) := by
  simp only [Operator.reading, (h.proper _ hp).parse_marked_pad hm hu hw hx, h.lookup?_eq_some hp]

theorem Tidy.reading_of_not_proper (h : r.Tidy) {text m rest : String} (hm : IsMarker m)
    (ht : trim text = m ++ rest) (hn : ¬ IsProper (trim rest)) :
    (Operator.named text).reading r = (none, true) := by
  have hnone : r.lookup? (trim rest) = none := h.lookup?_eq_none (by rwa [trim_trim])
  simp only [Operator.reading, parse_of_trim_eq hm ht, hnone]

theorem not_isProper_of_marker {name : String}
    (h : name = "" ∨ ∃ m rest, IsMarker m ∧ trim name = m ++ rest) : ¬ IsProper name := by
  intro hp
  rcases h with h | ⟨m, rest, hm, ht⟩
  · exact hp.ne_empty h
  · simpa [hp.not_negated] using isNegated_of_trim_eq hm ht

/-- The name of a stored predicate runs that predicate on the candidates, up to the first one that is met or
fails, and with a marker in front it makes the same calls and inverts what comes of them, errors excepted. What
has nothing or a further marker behind its marker is always true, and calls nothing. -/
theorem Reachable.evaluate_written (h : r.Reachable) (field : Option Json) (value : ConditionValue) :
    (∀ n p, (n, p) ∈ r.entries → ∀ u x, AllBlank u → AllBlank x →
      (Operator.named (u ++ n ++ x)).RunsAs r field value (groupTrial (some p) field value.candidates)) ∧
    (∀ n p, (n, p) ∈ r.entries → ∀ u m w x, IsMarker m → AllBlank u → AllBlank w → AllBlank x →
      (Operator.named (u ++ m ++ w ++ n ++ x)).RunsAs r field value fun s =>
        let plain := groupTrial (some p) field value.candidates s
        ⟨plain.calls, plain.outcome.map not, plain.after⟩) ∧
    (∀ text m rest, IsMarker m → trim text = m ++ rest →
      (trim rest = "" ∨ ∃ m' rest', IsMarker m' ∧ trim rest = m' ++ rest') →
      (Operator.named text).RunsAs r field value fun s => ⟨[], .ok true, s⟩) := by
  refine ⟨?_, ?_, ?_⟩
  · intro n p hp u x hu hx
    have hruns := Operator.runsAs_reading r field (.named (u ++ n ++ x)) value
    rw [h.tidy.reading_pad hp hu hx] at hruns
    simpa only [Trial.invert_false] using hruns
  · intro n p hp u m w x hm hu hw hx
    have hruns := Operator.runsAs_reading r field (.named (u ++ m ++ w ++ n ++ x)) value
    rw [h.tidy.reading_marked_pad hp hm hu hw hx] at hruns
    simpa only [Trial.invert, Bool.bne_true] using hruns
  · intro text m rest hm ht hrest
    have hn : ¬ IsProper (trim rest) := not_isProper_of_marker (by rwa [trim_trim])
    have hruns := Operator.runsAs_reading r field (.named text) value
    rw [h.tidy.reading_of_not_proper hm ht hn] at hruns
    exact hruns

/-- Whether there is a field. -/
def present : Predicate Unit := .ofTest 0 fun field _ => field.isSome

/-- The registry whose only name is `not`. -/
def onlyNot : Registry Unit := (empty.register " not " present).2

theorem reachable_onlyNot : onlyNot.Reachable := .ofEmpty (.register " not " present .refl)

/-- The word of the marker is a name in its own right, and can be negated by itself. Without a field both
candidates are tried, and behind two markers none is. -/
theorem Reachable.evaluate_written_onlyNot :
    let value : ConditionValue := .any [.null, .bool true]
    let count (text : String) : Except FilterError Bool × Unit × Nat :=
      (evaluateNoting (fun n _ => n + 1) onlyNot none (.named text) value).run ((), 0)
    onlyNot.Reachable ∧ ("not", present) ∈ onlyNot.entries ∧
    AllBlank "\t" ∧ AllBlank " " ∧ IsMarker "NoT " ∧
    count ("\t" ++ "not" ++ " ") = (.ok false, (), 2) ∧
    count ("\t" ++ "NoT " ++ " " ++ "not" ++ " ") = (.ok true, (), 2) ∧
    count "!!not" = (.ok true, (), 0) := by
  intro value count
  have hentry : ("not", present) ∈ onlyNot.entries := List.mem_singleton.mpr rfl
  have htab : AllBlank "\t" := by decide
  have hspace : AllBlank " " := by decide
  have hmarker : IsMarker "NoT " := .inr rfl
  obtain ⟨hplain, hnegated, htwice⟩ := reachable_onlyNot.evaluate_written none value
  have hplain := hplain "not" present hentry "\t" " " htab hspace
  have hnegated := hnegated "not" present hentry "\t" "NoT " " " " " hmarker htab hspace hspace
  have htwice := htwice "!!not" "!" "!not" (.inl rfl) rfl (.inr ⟨"!", "not", .inl rfl, rfl⟩)
  exact ⟨reachable_onlyNot, hentry, htab, hspace, hmarker, hplain.noted Nat _ () 0, hnegated.noted Nat _ () 0,
    htwice.noted Nat _ () 0⟩

end Sift.Registry
