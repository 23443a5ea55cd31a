import Sift.Operator
import Sift.Proofs.Text.Trim

/-! # Written names

How a written operator name reads: with or without a marker in front, and with blanks around the name,
around the whole and after the marker.
-/
namespace Sift.OperatorName
open Text

/-- An exclamation mark, or the word `not` in letters of either case and a space. -/
def IsMarker (m : String) : Prop := m = "!" ∨ m.toList.map Char.toLower = ['n', 'o', 't', ' ']

theorem toNat_toLower (c : Char) :
    c.toLower.toNat = if 65 ≤ c.toNat ∧ c.toNat ≤ 90 then c.toNat + 32 else c.toNat := by
  have hcapital : (c.val ≥ 'A'.val ∧ c.val ≤ 'Z'.val) ↔ 65 ≤ c.toNat ∧ c.toNat ≤ 90 := by
    simp only [ge_iff_le, UInt32.le_iff_toNat_le]
    rfl
  unfold Char.toLower
  simp only [hcapital]
  split
  · next h =>
    have hhigh : c.val.toNat ≤ 90 := h.2
    change (c.val.toNat + 32) % 2 ^ 32 = c.val.toNat + 32
    omega
  · rfl

/-- A character is its own lower case, or a capital letter. -/
theorem eq_or_capital_of_toLower {c d : Char} (h : c.toLower = d) :
    c = d ∨ 65 ≤ c.toNat ∧ c.toNat + 32 = d.toNat := by
  have hnat := toNat_toLower c
  rw [h] at hnat
  split at hnat
  · next hc => exact .inr ⟨hc.1, hnat.symm⟩
  · exact .inl (Char.toNat_inj.mp hnat.symm)

theorem eq_or_eq_of_toLower {c d e : Char} (h : c.toLower = d) (he : e.toNat + 32 = d.toNat) :
    c = d ∨ c = e := by
  rcases eq_or_capital_of_toLower h with h | ⟨-, h⟩
  · exact .inl h
  · exact .inr (Char.toNat_inj.mp (by omega))

theorem IsMarker.toList_eq {m : String} (hm : IsMarker m) :
    m.toList = ['!'] ∨ ∃ n o t, m.toList = [n, o, t, ' '] ∧
      (n = 'n' ∨ n = 'N') ∧ (o = 'o' ∨ o = 'O') ∧ (t = 't' ∨ t = 'T') := by
  rcases hm with rfl | hm
  · exact .inl rfl
  · right
    obtain ⟨n, r, hr, hn, hm⟩ := List.map_eq_cons_iff.mp hm
    obtain ⟨o, r', rfl, ho, hm⟩ := List.map_eq_cons_iff.mp hm
    obtain ⟨t, r, rfl, ht, hm⟩ := List.map_eq_cons_iff.mp hm
    obtain ⟨b, r', rfl, hb, hm⟩ := List.map_eq_cons_iff.mp hm
    obtain rfl := List.map_eq_nil_iff.mp hm
    have hspace : b = ' ' := by
      rcases eq_or_capital_of_toLower hb with h | ⟨h1, h2⟩
      · exact h
      · change b.toNat + 32 = 32 at h2
        omega
    subst hspace
    exact ⟨n, o, t, hr, eq_or_eq_of_toLower hn rfl, eq_or_eq_of_toLower ho rfl,
      eq_or_eq_of_toLower ht rfl⟩

theorem stripMarker_append {m : String} (hm : IsMarker m) (cs : List Char) :
    stripMarker (m.toList ++ cs) = some cs := by
  rcases hm.toList_eq with h | ⟨n, o, t, h, hn, ho, ht⟩
  · rw [h]
    rfl
  · rw [h]
    rcases hn with rfl | rfl <;> rcases ho with rfl | rfl <;> rcases ht with rfl | rfl <;> rfl

/-- What can be stripped from the front of a text is a marker and nothing else. -/
theorem stripMarker_eq_some_iff {cs rest : List Char} :
    stripMarker cs = some rest ↔ ∃ m, IsMarker m ∧ cs = m.toList ++ rest := by
  constructor
  · intro h
    unfold stripMarker at h
    split at h
    · obtain rfl := Option.some.inj h
      exact ⟨"!", .inl rfl, rfl⟩
    · next n o t rest' _ =>
      split at h
      · next hword =>
        obtain rfl := Option.some.inj h
        simp only [Bool.and_eq_true, Bool.or_eq_true, decide_eq_true_eq] at hword
        refine ⟨String.ofList [n, o, t, ' '], .inr ?_, by simp⟩
        obtain ⟨⟨rfl | rfl, rfl | rfl⟩, rfl | rfl⟩ := hword <;> rfl
      · cases h
    · cases h
  · rintro ⟨m, hm, rfl⟩
    exact stripMarker_append hm rest

theorem IsMarker.head?_toList {m : String} (hm : IsMarker m) :
    ∃ c, m.toList.head? = some c ∧ isBlank c = false := by
  rcases hm.toList_eq with h | ⟨n, o, t, h, hn, -, -⟩
  · exact ⟨'!', by rw [h]; rfl, by decide⟩
  · refine ⟨n, by rw [h]; rfl, ?_⟩
    rcases hn with rfl | rfl <;> decide

@[simp] theorem isNegated_trim (text : String) : isNegated (trim text) = isNegated text := by
  simp [isNegated]

theorem isNegated_of_trim_eq {text m rest : String} (hm : IsMarker m) (h : trim text = m ++ rest) :
    isNegated text = true := by
  rw [isNegated, ← toList_trim, h, String.toList_append, stripMarker_append hm]
  rfl

/-- What follows a marker is the name, without the blanks around it. -/
theorem parse_of_trim_eq {text m rest : String} (hm : IsMarker m) (h : trim text = m ++ rest) :
    parse text = ⟨trim rest, true⟩ := by
  have hs : stripMarker (trimChars text.toList) = some rest.toList := by
    rw [← toList_trim, h, String.toList_append, stripMarker_append hm]
  simp only [parse, hs]
  rfl

theorem parse_of_isNegated_eq_false {text : String} (h : isNegated text = false) :
    parse text = ⟨trim text, false⟩ := by
  have hs : stripMarker (trimChars text.toList) = none := by
    simpa [isNegated] using h
  simp only [parse, hs]
  rfl

@[simp] theorem trim_name_parse (text : String) : trim (parse text).name = (parse text).name := by
  simp only [parse]
  split <;> simp [trim]

/-- A name that a registry can hold: it is written as it is looked up. -/
structure IsProper (name : String) : Prop where
  ne_empty : name ≠ ""
  trim_eq : trim name = name
  not_negated : isNegated name = false

theorem parse_pad {n u x : String} (htrim : trim n = n) (hneg : isNegated n = false) (hu : AllBlank u)
    (hx : AllBlank x) : parse (u ++ n ++ x) = ⟨n, false⟩ := by
  have ht : trim (u ++ n ++ x) = n := by rw [trim_pad hu hx, htrim]
  have hpad : isNegated (u ++ n ++ x) = false := by rw [← isNegated_trim, ht, hneg]
  rw [parse_of_isNegated_eq_false hpad, ht]

theorem IsProper.parse_pad {n u x : String} (hn : IsProper n) (hu : AllBlank u) (hx : AllBlank x) :
    parse (u ++ n ++ x) = ⟨n, false⟩ :=
  OperatorName.parse_pad hn.trim_eq hn.not_negated hu hx

/-- A marker before a name, with blanks between the two, is not trimmed. -/
theorem trim_marker_append {n m w : String} (hm : IsMarker m) (hne : n ≠ "") (htrim : trim n = n) :
    trim (m ++ w ++ n) = m ++ w ++ n := by
  obtain ⟨c, hc, hblank⟩ := hm.head?_toList
  rw [trim_eq_self_iff]
  have hends := trim_eq_self_iff.mp htrim
  have hchars : n.toList ≠ [] := fun h => hne (String.toList_eq_nil_iff.mp h)
  have hlast := List.getLast?_eq_some_getLast hchars
  constructor
  · intro d hd
    simp only [String.toList_append, List.head?_append, hc, Option.some_or, Option.mem_def,
      Option.some.injEq] at hd
    exact hd ▸ hblank
  · intro d hd
    simp only [String.toList_append, List.getLast?_append, hlast, Option.some_or] at hd
    exact hends.2 d (hlast.trans hd)

/-- The name behind a marker may have a marker of its own: one is taken off. -/
theorem parse_marked_pad {n m u w x : String} (hm : IsMarker m) (hne : n ≠ "") (htrim : trim n = n)
    (hu : AllBlank u) (hw : AllBlank w) (hx : AllBlank x) : parse (u ++ m ++ w ++ n ++ x) = ⟨n, true⟩ := by
  have ht : trim (u ++ m ++ w ++ n ++ x) = m ++ (w ++ n) := by
    have hsplit : u ++ m ++ w ++ n ++ x = u ++ (m ++ w ++ n) ++ x := by simp only [String.append_assoc]
    rw [hsplit, trim_pad hu hx, trim_marker_append hm hne htrim, String.append_assoc]
  have hname : trim (w ++ n) = n := by
    have hpad := trim_pad hw (x := "") (by decide) n
    rwa [String.append_empty, htrim] at hpad
  rw [parse_of_trim_eq hm ht, hname]

theorem IsProper.parse_marked_pad {n m u w x : String} (hn : IsProper n) (hm : IsMarker m)
    (hu : AllBlank u) (hw : AllBlank w) (hx : AllBlank x) :
    parse (u ++ m ++ w ++ n ++ x) = ⟨n, true⟩ :=
  OperatorName.parse_marked_pad hm hn.ne_empty hn.trim_eq hu hw hx

/-- A marker in front of a text that has a name, but no marker, negates that name. -/
theorem parse_marker_append {n m : String} (hne : trim n ≠ "") (hn : isNegated n = false)
    (hm : IsMarker m) : parse (m ++ n) = ⟨trim n, true⟩ := by
  have hproper : IsProper (trim n) := ⟨hne, trim_trim n, by rw [isNegated_trim, hn]⟩
  have hempty : AllBlank "" := by decide
  obtain ⟨u, x, hu, hx, hpad⟩ := exists_pad n
  have hparse := hproper.parse_marked_pad hm hempty hu hx
  have hsplit : "" ++ m ++ u ++ trim n ++ x = m ++ n := by
    simp only [String.empty_append, String.append_assoc] at hpad ⊢
    rw [hpad]
  rwa [hsplit] at hparse

end Sift.OperatorName
