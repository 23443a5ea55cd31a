import Sift.Proofs.Registry.Growth

/-! # The table of a registry

The names of a reachable registry are listed in strictly increasing order, and the answer of a call says
exactly whether the call has added an entry; a refused call changes nothing.
-/
namespace Sift.Registry
open OperatorName

variable {σ : Type} {r : Registry σ}

theorem Tidy.names_nodup (h : r.Tidy) : r.names.Nodup :=
  (List.mergeSort_perm _ _).nodup_iff.mpr h.nodup

/-- The names are sorted, and no name is listed twice. -/
theorem Tidy.names_pairwise_lt (h : r.Tidy) : r.names.Pairwise (· < ·) := by
  have hsorted : r.names.Pairwise fun a b => (!decide (b < a)) = true := by
    refine List.pairwise_mergeSort (fun a b c hab hbc => ?_) (fun a b => ?_) _
    · simp only [Bool.not_eq_true', decide_eq_false_iff_not, String.not_lt] at hab hbc ⊢
      exact String.le_trans hab hbc
    · simp only [Bool.or_eq_true, Bool.not_eq_true', decide_eq_false_iff_not, String.not_lt]
      exact String.le_total a b
  refine hsorted.imp₂ (fun a b hab hne => ?_) h.names_nodup
  simp only [Bool.not_eq_true', decide_eq_false_iff_not, String.not_lt] at hab
  exact String.not_le.mp fun hba => hne (String.le_antisymm hab hba)

theorem mem_names_iff_holds {name : String} : name ∈ r.names ↔ r.Holds name := mem_names

theorem register_eq_false_iff {name : String} {p : Predicate σ} :
    (r.register name p).1 = false ↔ r.Refuses (Text.trim name) := by
  rcases r.register_cases name p with ⟨hn, he⟩ | ⟨hr, he⟩
  · simp [he, hn]
  · simp [he, hr]

theorem register_of_eq_false {name : String} {p : Predicate σ} (h : (r.register name p).1 = false) :
    (r.register name p).2 = r := by
  rcases r.register_cases name p with ⟨-, he⟩ | ⟨-, he⟩
  · simp [he] at h
  · rw [he]

/-- A table with one more entry is another table. -/
theorem ne_of_entries_eq_append {t : Registry σ} {e : String × Predicate σ}
    (h : t.entries = r.entries ++ [e]) : t ≠ r := by
  rintro rfl
  simpa using congrArg List.length h

theorem register_eq_true_iff {name : String} {p : Predicate σ} :
    (r.register name p).1 = true ↔
      ¬ r.Holds (Text.trim name) ∧ (r.register name p).2.entries = r.entries ++ [(Text.trim name, p)] := by
  constructor
  · intro h
    rcases r.register_cases name p with ⟨hn, he⟩ | ⟨-, he⟩
    · exact ⟨fun hheld => hn (.inr (.inr hheld)), by rw [he]⟩
    · simp [he] at h
  · rintro ⟨-, hentries⟩
    by_contra hne
    exact ne_of_entries_eq_append hentries (register_of_eq_false (Bool.not_eq_true _ ▸ hne))

theorem addAlias_eq_false_iff {existing name : String} :
    (r.addAlias existing name).1 = false ↔
      r.Refuses (Text.trim name) ∨ ¬ r.Holds (Text.trim existing) := by
  rcases r.addAlias_cases existing name with ⟨p, hp, he⟩ | ⟨hn, he⟩
  · have hheld : r.Holds (Text.trim existing) := ⟨p, mem_of_lookup hp⟩
    simp [he, register_eq_false_iff, hheld]
  · simp [he, hn]

theorem addAlias_of_eq_false {existing name : String} (h : (r.addAlias existing name).1 = false) :
    (r.addAlias existing name).2 = r := by
  rcases r.addAlias_cases existing name with ⟨p, -, he⟩ | ⟨-, he⟩
  · rw [he] at h ⊢
    exact register_of_eq_false h
  · rw [he]

theorem addAlias_eq_true_iff {existing name : String} :
    (r.addAlias existing name).1 = true ↔ ∃ p, (Text.trim existing, p) ∈ r.entries ∧
      ¬ r.Holds (Text.trim name) ∧
      (r.addAlias existing name).2.entries = r.entries ++ [(Text.trim name, p)] := by
  constructor
  · intro h
    rcases r.addAlias_cases existing name with ⟨p, hp, he⟩ | ⟨-, he⟩
    · rw [he] at h ⊢
      exact ⟨p, mem_of_lookup hp, register_eq_true_iff.mp h⟩
    · simp [he] at h
  · rintro ⟨p, -, -, hentries⟩
    by_contra hne
    exact ne_of_entries_eq_append hentries (addAlias_of_eq_false (Bool.not_eq_true _ ▸ hne))

/-- What holds of every table that calls with arbitrary texts lead to, and of every call from there:
stored names are proper, `names` lists them in strictly increasing order, and a call answers `true` exactly
if it adds one entry and `false` exactly for the stated reasons, without a change. -/
theorem Reachable.table_laws (h : r.Reachable) :
    (∀ name, r.Holds name → name ≠ "" ∧ Text.trim name = name ∧ isNegated name = false) ∧
    (r.names.Pairwise (· < ·) ∧ (∀ name, name ∈ r.names ↔ r.Holds name) ∧ r.names.length = r.size) ∧
    (∀ name p, ((r.register name p).1 = true ↔ ¬ r.Holds (Text.trim name) ∧
        (r.register name p).2.entries = r.entries ++ [(Text.trim name, p)]) ∧
      ((r.register name p).1 = false → (r.register name p).2 = r) ∧
      ((r.register name p).1 = false ↔ Text.trim name = "" ∨ isNegated (Text.trim name) = true ∨
        r.Holds (Text.trim name))) ∧
    (∀ existing name, ((r.addAlias existing name).1 = true ↔ ∃ p, (Text.trim existing, p) ∈ r.entries ∧
        ¬ r.Holds (Text.trim name) ∧
        (r.addAlias existing name).2.entries = r.entries ++ [(Text.trim name, p)]) ∧
      ((r.addAlias existing name).1 = false → (r.addAlias existing name).2 = r) ∧
      ((r.addAlias existing name).1 = false ↔ (Text.trim name = "" ∨ isNegated (Text.trim name) = true ∨
        r.Holds (Text.trim name)) ∨ ¬ r.Holds (Text.trim existing))) := by
  have ht := h.tidy
  refine ⟨?_, ⟨ht.names_pairwise_lt, fun _ => mem_names_iff_holds, r.size_names⟩, ?_, ?_⟩
  · rintro name ⟨p, hp⟩
    have hproper := ht.proper _ hp
    exact ⟨hproper.ne_empty, hproper.trim_eq, hproper.not_negated⟩
  · intro name p
    exact ⟨register_eq_true_iff, register_of_eq_false, register_eq_false_iff⟩
  · intro existing name
    exact ⟨addAlias_eq_true_iff, addAlias_of_eq_false, addAlias_eq_false_iff⟩

/-- The registry of one predicate without effect, whose name was written with blanks around it. -/
def onlyShout : Registry Unit := (empty.register " Shout " (.ofTest 0 fun _ _ => true)).2

/-- A name is refused once more whatever the blanks around it, also as an alias of itself, and a name with
a marker is refused; a further name for the same predicate is not. -/
theorem Reachable.table_laws_onlyShout : onlyShout.Reachable ∧
    (onlyShout.register "Shout\n" (.ofTest 1 fun _ _ => false)).2 = onlyShout ∧
    (onlyShout.addAlias "Shout" " Shout").2 = onlyShout ∧
    (onlyShout.addAlias "Shout" "NOT Shout").2 = onlyShout ∧
    ∃ p, ("Shout", p) ∈ onlyShout.entries ∧
      (onlyShout.addAlias "Shout " "cry").2.entries = onlyShout.entries ++ [("cry", p)] := by
  have hreachable : onlyShout.Reachable := .ofEmpty (.register _ _ .refl)
  obtain ⟨-, -, hregister, halias⟩ := hreachable.table_laws
  have hheld : onlyShout.Holds "Shout" := ⟨_, List.mem_singleton.mpr rfl⟩
  refine ⟨hreachable, ?_, ?_, ?_, ?_⟩
  · obtain ⟨-, hsame, hrefused⟩ := hregister "Shout\n" (.ofTest 1 fun _ _ => false)
    exact hsame (hrefused.mpr (.inr (.inr hheld)))
  · obtain ⟨-, hsame, hrefused⟩ := halias "Shout" " Shout"
    exact hsame (hrefused.mpr (.inl (.inr (.inr hheld))))
  · obtain ⟨-, hsame, hrefused⟩ := halias "Shout" "NOT Shout"
    exact hsame (hrefused.mpr (.inl (.inr (.inl rfl))))
  · obtain ⟨p, hp, -, hadded⟩ := (halias "Shout " "cry").1.mp rfl
    exact ⟨p, hp, hadded⟩

end Sift.Registry
