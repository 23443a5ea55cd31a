/-! # Cutting texts at a separator

`pieces` cuts a text at every separator and always has at least one piece; `cut?` cuts it at the first
one only. Joining undoes both.
-/
namespace Sift.Text

/-- The pieces of a text between the separators, in order. -/
def pieces (sep : Char) : List Char → List (List Char)
  | [] => [[]]
  | c :: cs =>
    if c = sep then [] :: pieces sep cs
    else match pieces sep cs with
      | [] => [[c]]
      | p :: ps => (c :: p) :: ps

/-- The pieces of a text put together again, with the separator between two neighbours. -/
def join (sep : Char) : List (List Char) → List Char
  | [] => []
  | [p] => p
  | p :: q :: ps => p ++ sep :: join sep (q :: ps)

/-- The text before the first separator and the text after it, if there is a separator. -/
def cut? (sep : Char) : List Char → Option (List Char × List Char)
  | [] => none
  | c :: cs =>
    if c = sep then some ([], cs)
    else (cut? sep cs).map fun (before, after) => (c :: before, after)

theorem pieces_ne_nil (sep : Char) (cs : List Char) : pieces sep cs ≠ [] := by
  cases cs with
  | nil => simp [pieces]
  | cons c cs =>
    unfold pieces
    split
    · simp
    · split <;> simp

theorem join_pieces (sep : Char) (cs : List Char) : join sep (pieces sep cs) = cs := by
  induction cs with
  | nil => rfl
  | cons c cs ih =>
    unfold pieces
    split
    · next h =>
      cases hp : pieces sep cs with
      | nil => exact absurd hp (pieces_ne_nil sep cs)
      | cons p ps => rw [hp] at ih; simp [join, ih, h]
    · cases hp : pieces sep cs with
      | nil => exact absurd hp (pieces_ne_nil sep cs)
      | cons p ps =>
        rw [hp] at ih
        cases ps with
        | nil => simp_all [join]
        | cons q qs => simpa [join] using ih

/-- A separator in a text ends one row of pieces and begins another. -/
theorem pieces_append_cons (sep : Char) (p q : List Char) :
    pieces sep (p ++ sep :: q) = pieces sep p ++ pieces sep q := by
  induction p with
  | nil => simp [pieces]
  | cons c cs ih =>
    simp only [List.cons_append, pieces]
    split
    · simp [ih]
    · rw [ih]
      cases hp : pieces sep cs with
      | nil => exact absurd hp (pieces_ne_nil sep cs)
      | cons p ps => simp

theorem pieces_of_notMem {sep : Char} {cs : List Char} (h : sep ∉ cs) : pieces sep cs = [cs] := by
  induction cs with
  | nil => rfl
  | cons c cs ih =>
    simp only [List.mem_cons, not_or] at h
    simp [pieces, ih h.2, Ne.symm h.1]

theorem notMem_of_mem_pieces {sep : Char} {cs p : List Char} (h : p ∈ pieces sep cs) : sep ∉ p := by
  induction cs generalizing p with
  | nil => simp_all [pieces]
  | cons c cs ih =>
    unfold pieces at h
    split at h
    · rcases List.mem_cons.1 h with rfl | h
      · simp
      · exact ih h
    · next hc =>
      cases hp : pieces sep cs with
      | nil => exact absurd hp (pieces_ne_nil sep cs)
      | cons q qs =>
        rw [hp] at h
        rcases List.mem_cons.1 h with rfl | h
        · have := ih (p := q) (by simp [hp])
          simp [this, Ne.symm hc]
        · exact ih (by simp [hp, h])

theorem join_eq_intercalate (sep : Char) (ps : List (List Char)) : join sep ps = [sep].intercalate ps := by
  induction ps with
  | nil => rfl
  | cons p rest ih =>
    cases rest with
    | nil => simp [join]
    | cons q qs => rw [join, List.intercalate_cons_cons, ih, List.append_assoc, List.singleton_append]

theorem pieces_join {sep : Char} {ps : List (List Char)} (hne : ps ≠ []) (h : ∀ p ∈ ps, sep ∉ p) :
    pieces sep (join sep ps) = ps := by
  induction ps with
  | nil => exact absurd rfl hne
  | cons p rest ih =>
    have hp : pieces sep p = [p] := pieces_of_notMem (h p List.mem_cons_self)
    cases rest with
    | nil => exact hp
    | cons q qs =>
      have hrest := ih (by simp) fun r hr => h r (List.mem_cons_of_mem p hr)
      rw [join, pieces_append_cons, hp, hrest]
      rfl

/-- The pieces of a text are the only non-empty row without the separator that joins to the text. -/
theorem pieces_eq_iff {sep : Char} {cs : List Char} {ps : List (List Char)} :
    pieces sep cs = ps ↔ ps ≠ [] ∧ (∀ p ∈ ps, sep ∉ p) ∧ join sep ps = cs := by
  constructor
  · rintro rfl
    exact ⟨pieces_ne_nil sep cs, fun _ hp => notMem_of_mem_pieces hp, join_pieces sep cs⟩
  · rintro ⟨hne, hsep, rfl⟩
    exact pieces_join hne hsep

/-- A text is cut into the one part without the separator that stands before a separator, and all the rest. -/
theorem cut?_eq_some_iff {sep : Char} {cs before after : List Char} :
    cut? sep cs = some (before, after) ↔ cs = before ++ sep :: after ∧ sep ∉ before := by
  constructor
  · intro h
    induction cs generalizing before with
    | nil => simp [cut?] at h
    | cons c cs ih =>
      unfold cut? at h
      split at h
      · next hc => simp_all
      · next hc =>
        obtain ⟨⟨b, a⟩, hb, hba⟩ := Option.map_eq_some_iff.1 h
        simp only [Prod.mk.injEq] at hba
        obtain ⟨rfl, rfl⟩ := hba
        obtain ⟨rfl, hs⟩ := ih hb
        exact ⟨rfl, by simp [hs, Ne.symm hc]⟩
  · rintro ⟨rfl, hsep⟩
    induction before with
    | nil => simp [cut?]
    | cons c before ih =>
      simp only [List.mem_cons, not_or] at hsep
      rw [List.cons_append, cut?, if_neg (Ne.symm hsep.1), ih hsep.2]
      rfl

end Sift.Text
