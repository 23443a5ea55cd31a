import Sift.Proofs.Operator.Encoded

/-! # What a name is read from

Reading undoes writing, and nothing else is ever read: a name without a negation comes from blanks around that
name, and a negated name from a marker with blanks around the marker, the name and the whole.
-/
namespace Sift.OperatorName
open Text

theorem isNegated_iff {text : String} : isNegated text = true ↔ ∃ m rest, IsMarker m ∧ trim text = m ++ rest := by
  rw [isNegated, ← toList_trim, Option.isSome_iff_exists]
  simp only [stripMarker_eq_some_iff]
  constructor
  · rintro ⟨rest, m, hm, h⟩
    exact ⟨m, String.ofList rest, hm, String.toList_inj.mp (by simpa using h)⟩
  · rintro ⟨m, rest, hm, h⟩
    exact ⟨rest.toList, m, hm, by rw [h, String.toList_append]⟩

theorem isNegated_eq_negated (text : String) : isNegated text = (parse text).negated := by
  cases hneg : isNegated text with
  | false => rw [parse_of_isNegated_eq_false hneg]
  | true =>
    obtain ⟨m, rest, hm, h⟩ := isNegated_iff.mp hneg
    rw [parse_of_trim_eq hm h]

/-- Behind the word of a marker there is a name, since the space in it would be trimmed. -/
theorem eq_mark_of_trim_eq {text m rest : String} (hm : IsMarker m) (h : trim text = m ++ rest)
    (hrest : AllBlank rest) : m = "!" := by
  rcases hm.toList_eq with hmark | ⟨n, o, t, hword, -⟩
  · exact String.toList_inj.mp hmark
  · have hchars : (trim text).toList = [n, o, t] ++ ' ' :: rest.toList := by
      rw [h, String.toList_append, hword]
      rfl
    have hbare : BareEnds ([n, o, t] ++ ' ' :: rest.toList) := by
      rw [← hchars, toList_trim]
      exact bareEnds_trimChars text.toList
    have hblank : ∀ c ∈ ' ' :: rest.toList, isBlank c = true :=
      List.forall_mem_cons.mpr ⟨by decide, hrest⟩
    cases hbare.eq_nil_of_append hblank

theorem parse_eq_plain_iff {text n : String} :
    parse text = ⟨n, false⟩ ↔
      trim n = n ∧ isNegated n = false ∧ ∃ u x, AllBlank u ∧ AllBlank x ∧ text = u ++ n ++ x := by
  constructor
  · intro h
    have hneg : isNegated text = false := by rw [isNegated_eq_negated, h]
    rw [parse_of_isNegated_eq_false hneg] at h
    obtain rfl := congrArg OperatorName.name h
    obtain ⟨u, x, hu, hx, hpad⟩ := exists_pad text
    exact ⟨trim_trim text, by rw [isNegated_trim, hneg], u, x, hu, hx, hpad.symm⟩
  · rintro ⟨htrim, hneg, u, x, hu, hx, rfl⟩
    exact parse_pad htrim hneg hu hx

theorem parse_eq_negated_iff {text n : String} :
    parse text = ⟨n, true⟩ ↔
      trim n = n ∧ ∃ u m w x, AllBlank u ∧ IsMarker m ∧ AllBlank w ∧ AllBlank x ∧
        text = u ++ m ++ w ++ n ++ x ∧ (n = "" → m = "!") := by
  constructor
  · intro h
    have hneg : isNegated text = true := by rw [isNegated_eq_negated, h]
    obtain ⟨m, rest, hm, htext⟩ := isNegated_iff.mp hneg
    rw [parse_of_trim_eq hm htext] at h
    obtain rfl := congrArg OperatorName.name h
    obtain ⟨u, x, hu, hx, hpad⟩ := exists_pad text
    obtain ⟨w, y, hw, hy, hrest⟩ := exists_pad rest
    refine ⟨trim_trim rest, u, m, w, y ++ x, hu, hm, hw, hy.append hx, ?_, fun hempty => ?_⟩
    · calc text = u ++ (m ++ (w ++ trim rest ++ y)) ++ x := by rw [hrest, ← htext, hpad]
        _ = u ++ m ++ w ++ trim rest ++ (y ++ x) := by simp only [String.append_assoc]
    · exact eq_mark_of_trim_eq hm htext (trim_eq_empty_iff.mp hempty)
  · rintro ⟨htrim, u, m, w, x, hu, hm, hw, hx, rfl, hempty⟩
    by_cases hn : n = ""
    · obtain rfl := hempty hn
      subst hn
      have ht : trim (u ++ "!" ++ w ++ "" ++ x) = "!" ++ "" := by
        rw [String.append_empty, String.append_assoc, trim_pad hu (hw.append hx)]
        rfl
      rw [parse_of_trim_eq hm ht, htrim]
    · exact parse_marked_pad hm hn htrim hu hw hx

theorem exists_around_name (text : String) : ∃ before after, text = before ++ (parse text).name ++ after := by
  cases hparse : parse text with
  | mk n negated =>
    cases negated with
    | false =>
      obtain ⟨-, -, u, x, -, -, h⟩ := parse_eq_plain_iff.mp hparse
      exact ⟨u, x, h⟩
    | true =>
      obtain ⟨-, u, m, w, x, -, -, -, -, h, -⟩ := parse_eq_negated_iff.mp hparse
      exact ⟨u ++ m ++ w, x, h⟩

theorem isSome_stripMarkerBytes (text : String) :
    (stripMarkerBytes (trim text).toUTF8.data.toList).isSome = isNegated text := by
  rw [toList_data_toUTF8, stripMarkerBytes_encode, Option.isSome_map, isNegated, toList_trim]

/-- A name that is trimmed, not empty and without a marker is read from itself with any blanks around it, and is
negated behind any marker, with any blanks around both. Conversely each text is read in one way. A plain name
is read exactly from itself with blanks around it, a negated name exactly from itself behind a marker, and the
marker is an exclamation mark if no name is left. What is read is trimmed and stands in the text as it is. The
test for a marker agrees with the reading; it finds a marker in front of the trimmed text and nothing else,
whether it looks at characters or at bytes. -/
theorem parse_inverts_writing :
    (∀ n u m w x : String, IsProper n → IsMarker m → AllBlank u → AllBlank w → AllBlank x →
      parse (u ++ n ++ x) = ⟨n, false⟩ ∧ parse (u ++ m ++ w ++ n ++ x) = ⟨n, true⟩) ∧
    ∀ text : String,
      (∀ n, parse text = ⟨n, false⟩ ↔
        trim n = n ∧ isNegated n = false ∧ ∃ u x, AllBlank u ∧ AllBlank x ∧ text = u ++ n ++ x) ∧
      (∀ n, parse text = ⟨n, true⟩ ↔
        trim n = n ∧ ∃ u m w x, AllBlank u ∧ IsMarker m ∧ AllBlank w ∧ AllBlank x ∧
          text = u ++ m ++ w ++ n ++ x ∧ (n = "" → m = "!")) ∧
      trim (parse text).name = (parse text).name ∧
      (∃ before after, text = before ++ (parse text).name ++ after) ∧
      isNegated text = (parse text).negated ∧
      (isNegated text = true ↔ ∃ m rest, IsMarker m ∧ trim text = m ++ rest) ∧
      (stripMarkerBytes (trim text).toUTF8.data.toList).isSome = isNegated text := by
  refine ⟨fun n u m w x hn hm hu hw hx => ?_, fun text => ?_⟩
  · exact ⟨hn.parse_pad hu hx, hn.parse_marked_pad hm hu hw hx⟩
  · exact ⟨fun n => parse_eq_plain_iff, fun n => parse_eq_negated_iff, trim_name_parse text,
      exists_around_name text, isNegated_eq_negated text, isNegated_iff, isSome_stripMarkerBytes text⟩

/-- No marker is found where the fourth byte is in the middle of a character or a tab follows the word, and of
two marks the second one stays. -/
theorem parse_inverts_writing_accented :
    IsProper "égal" ∧ IsMarker "nOT " ∧ AllBlank "\t" ∧ AllBlank "\u00a0" ∧ AllBlank "\u3000" ∧
    parse ("\t" ++ "égal" ++ "\u3000") = ⟨"égal", false⟩ ∧
    parse ("\t" ++ "nOT " ++ "\u00a0" ++ "égal" ++ "\u3000") = ⟨"égal", true⟩ ∧
    isNegated "noté" = false ∧ (parse "noté").negated = false ∧
    parse " not\tequal" = ⟨"not\tequal", false⟩ ∧
    parse "! !x" = ⟨"!x", true⟩ := by
  have hproper : IsProper "égal" := ⟨by decide, by decide, by decide⟩
  have hmarker : IsMarker "nOT " := .inr (by decide)
  have hmark : IsMarker "!" := .inl rfl
  have htab : AllBlank "\t" := by decide
  have hfixed : AllBlank "\u00a0" := by decide
  have hwide : AllBlank "\u3000" := by decide
  have hspace : AllBlank " " := by decide
  have hempty : AllBlank "" := by decide
  obtain ⟨hread, hwritten⟩ := parse_inverts_writing
  obtain ⟨hplain, hnegated⟩ := hread _ _ _ _ _ hproper hmarker htab hfixed hwide
  have hcut : isNegated "noté" = false := by decide
  obtain ⟨-, -, -, -, hflag, -⟩ := hwritten "noté"
  obtain ⟨hword, -⟩ := hwritten " not\tequal"
  obtain ⟨-, htwice, -⟩ := hwritten "! !x"
  exact ⟨hproper, hmarker, htab, hfixed, hwide, hplain, hnegated, hcut, hflag ▸ hcut,
    (hword _).mpr ⟨by decide, by decide, " ", "", hspace, hempty, rfl⟩,
    (htwice _).mpr ⟨by decide, "", "!", " ", "", hempty, hmark, hspace, hempty, rfl, by simp⟩⟩

end Sift.OperatorName
