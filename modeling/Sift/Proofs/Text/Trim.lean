import Mathlib.Data.List.DropRight
import Sift.Text.Blank

/-! # Laws of trimming

A trimmed text has no blank at its ends, trimming leaves such a text as it is, and blanks that are put
around a text are trimmed again.
-/
namespace Sift.Text

/-- Nothing but blanks, perhaps nothing at all. -/
def AllBlank (s : String) : Prop := ∀ c ∈ s.toList, isBlank c = true

instance (s : String) : Decidable (AllBlank s) := List.decidableBAll (isBlank · = true) s.toList

theorem AllBlank.append {u x : String} (hu : AllBlank u) (hx : AllBlank x) : AllBlank (u ++ x) := by
  intro c hc
  rw [String.toList_append, List.mem_append] at hc
  exact hc.elim (hu c) (hx c)

/-- The first and the last character, if there are any, are no blanks. -/
def BareEnds (cs : List Char) : Prop :=
  (∀ c ∈ cs.head?, isBlank c = false) ∧ ∀ c ∈ cs.getLast?, isBlank c = false

theorem trimChars_eq_rdropWhile (cs : List Char) :
    trimChars cs = (cs.dropWhile isBlank).rdropWhile isBlank := rfl

theorem trimChars_append_left {u : List Char} (hu : ∀ c ∈ u, isBlank c = true) (cs : List Char) :
    trimChars (u ++ cs) = trimChars cs := by
  rw [trimChars, trimChars, List.dropWhile_append_of_pos hu]

theorem trimChars_append_right (cs : List Char) {x : List Char} (hx : ∀ c ∈ x, isBlank c = true) :
    trimChars (cs ++ x) = trimChars cs := by
  have hr : ∀ c ∈ x.reverse, isBlank c = true := fun c hc => hx c (List.mem_reverse.mp hc)
  have hn : x.dropWhile isBlank = [] := List.dropWhile_eq_nil_iff.mpr hx
  rw [trimChars, trimChars, List.dropWhile_append]
  cases hd : cs.dropWhile isBlank with
  | nil => simp [hn]
  | cons c rest =>
    simp only [List.isEmpty_cons, Bool.false_eq_true, ↓reduceIte, List.reverse_append]
    rw [List.dropWhile_append_of_pos hr]

theorem bareEnds_trimChars (cs : List Char) : BareEnds (trimChars cs) := by
  rw [trimChars_eq_rdropWhile]
  constructor
  · intro c hc
    obtain ⟨rest, hrest⟩ := List.rdropWhile_prefix isBlank (cs.dropWhile isBlank)
    have hd : (cs.dropWhile isBlank).head? = some c := by
      rw [← hrest, List.head?_append, Option.mem_def.mp hc]
      rfl
    simpa [hd] using List.head?_dropWhile_not isBlank cs
  · intro c hc
    have hne : (cs.dropWhile isBlank).rdropWhile isBlank ≠ [] := by
      rintro hnil
      simp [hnil] at hc
    have hlast := List.getLast?_eq_some_getLast hne
    obtain rfl := Option.some.inj (hlast.symm.trans hc)
    simpa using List.rdropWhile_last_not isBlank _ hne

/-- Nothing that is blank stands at the end of a trimmed text. -/
theorem BareEnds.eq_nil_of_append {cs xs : List Char} (h : BareEnds (cs ++ xs))
    (hx : ∀ c ∈ xs, isBlank c = true) : xs = [] := by
  by_contra hne
  have hlast : (cs ++ xs).getLast? = some (xs.getLast hne) := by
    rw [List.getLast?_append, List.getLast?_eq_some_getLast hne]
    rfl
  have hbare := h.2 _ hlast
  rw [hx _ (List.getLast_mem hne)] at hbare
  cases hbare

/-- Trimming leaves exactly the texts without blanks at their ends as they are. -/
theorem trimChars_eq_self_iff {cs : List Char} : trimChars cs = cs ↔ BareEnds cs := by
  constructor
  · intro h
    exact h ▸ bareEnds_trimChars cs
  · rintro ⟨hhead, hlast⟩
    cases cs with
    | nil => rfl
    | cons c rest =>
      have hd : (c :: rest).dropWhile isBlank = c :: rest :=
        List.dropWhile_cons_of_neg (by simp [hhead c rfl])
      rw [trimChars_eq_rdropWhile, hd, List.rdropWhile_eq_self_iff]
      intro hne
      simp [hlast _ (List.getLast?_eq_some_getLast hne)]

@[simp] theorem trimChars_trimChars (cs : List Char) : trimChars (trimChars cs) = trimChars cs :=
  trimChars_eq_self_iff.mpr (bareEnds_trimChars cs)

@[simp] theorem trim_trim (s : String) : trim (trim s) = trim s := by simp [trim]

/-- Blanks around a text are trimmed. -/
theorem trim_pad {u x : String} (hu : AllBlank u) (hx : AllBlank x) (s : String) :
    trim (u ++ s ++ x) = trim s := by
  simp only [trim, String.toList_append]
  rw [trimChars_append_right _ hx, trimChars_append_left hu]

/-- A text is its trimmed form with blanks around it. -/
theorem exists_pad (s : String) : ∃ u x, AllBlank u ∧ AllBlank x ∧ u ++ trim s ++ x = s := by
  let rest := s.toList.dropWhile isBlank
  refine ⟨String.ofList (s.toList.takeWhile isBlank), String.ofList (rest.rtakeWhile isBlank), ?_, ?_, ?_⟩
  · intro c hc
    rw [String.toList_ofList] at hc
    exact List.mem_takeWhile_imp hc
  · intro c hc
    rw [String.toList_ofList] at hc
    exact List.mem_rtakeWhile_imp hc
  · have hrest : trimChars s.toList ++ rest.rtakeWhile isBlank = rest := by
      rw [trimChars_eq_rdropWhile, List.rdropWhile_append_rtakeWhile]
    rw [← String.toList_inj]
    simp only [String.toList_append, String.toList_ofList, toList_trim, List.append_assoc]
    rw [hrest, List.takeWhile_append_dropWhile]

/-- Nothing is left of a text that is trimmed exactly if it is blank. -/
theorem trim_eq_empty_iff {s : String} : trim s = "" ↔ AllBlank s := by
  constructor
  · intro h
    obtain ⟨u, x, hu, hx, hs⟩ := exists_pad s
    rw [h, String.append_empty] at hs
    exact hs ▸ hu.append hx
  · intro h
    have hnil := trimChars_append_left h []
    rw [List.append_nil] at hnil
    rw [trim, hnil]
    rfl

theorem trim_eq_self_iff {s : String} : trim s = s ↔ BareEnds s.toList := by
  rw [← trimChars_eq_self_iff, ← String.toList_inj, toList_trim]

end Sift.Text
