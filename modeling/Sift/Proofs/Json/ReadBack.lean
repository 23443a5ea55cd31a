import Mathlib.Tactic.IntervalCases
import Sift.Libraries
import Sift.Proofs.Json.Canonical
import Sift.Proofs.Json.NumberText

/-! # Texts read back

A value that fits the depth of the reader is read back from its text, the compact one and the pretty one
alike. Both are put together from the texts of strings and numbers and from rows of items between brackets;
what is between the items, if anything, is space, which the reader skips.
-/
namespace Sift.Json
open Numeral

/-! ## Strings -/

/-- A control character is read back from the four digits of its code. -/
theorem stringBody_control {n : Nat} (hn : n < 0x20) (rest : List Char) :
    stringBody ('\\' :: 'u' :: '0' :: '0' :: hexDigit (n / 16) :: hexDigit n :: rest) =
      (stringBody rest).map fun (text, rest) => (Char.ofNat n :: text, rest) := by
  have hunit : codeUnit? '0' '0' (hexDigit (n / 16)) (hexDigit n) = some n := by
    interval_cases n <;> rfl
  have hsurrogate : (0xD800 ≤ n && n < 0xE000) = false := by
    rw [Bool.and_eq_false_iff, decide_eq_false_iff_not]
    omega
  rw [stringBody]
  simp only [hunit, hsurrogate]
  rfl

theorem stringBody_plain {c : Char} (hquote : c ≠ '"') (hslash : c ≠ '\\') (hc : ¬ c.toNat < 0x20)
    (rest : List Char) :
    stringBody (c :: rest) = (stringBody rest).map fun (text, rest) => (c :: text, rest) := by
  rw [stringBody.eq_def]
  split <;> simp_all

/-- An escaped character is read as the character. -/
theorem stringBody_escape (c : Char) (rest : List Char) :
    stringBody (escape c ++ rest) = (stringBody rest).map fun (text, rest) => (c :: text, rest) := by
  unfold escape
  split
  · rfl
  · rfl
  · rfl
  · rfl
  · rfl
  · rfl
  · rfl
  · next hquote hslash _ _ _ _ _ =>
    split
    · next hc =>
      have hread := stringBody_control hc rest
      rwa [Char.ofNat_toNat] at hread
    · next hc => exact stringBody_plain hquote hslash hc rest

theorem stringBody_escaped (cs rest : List Char) :
    stringBody (cs.flatMap escape ++ '"' :: rest) = some (cs, rest) := by
  induction cs with
  | nil => rfl
  | cons c cs ih =>
    rw [List.flatMap_cons, List.append_assoc, stringBody_escape, ih]
    rfl

theorem stringText_append (s : String) (rest : List Char) :
    stringText s ++ rest = '"' :: (s.toList.flatMap escape ++ '"' :: rest) := by
  simp [stringText]

/-! ## Rows of items -/

/-- All characters are spaces. -/
def Blank (cs : List Char) : Prop := ∀ c ∈ cs, isSpace c = true

theorem skipSpace_append {spaces : List Char} (h : Blank spaces) (cs : List Char) :
    skipSpace (spaces ++ cs) = skipSpace cs := List.dropWhile_append_of_pos h

theorem skipSpace_of_not_isSpace {c : Char} (h : isSpace c = false) (cs : List Char) :
    skipSpace (c :: cs) = c :: cs := by
  rw [skipSpace, List.dropWhile_cons, h, if_neg Bool.false_ne_true]

theorem skipSpace_skipSpace (cs : List Char) : skipSpace (skipSpace cs) = skipSpace cs :=
  List.dropWhile_idempotent ..

theorem ends_of_isSpace {cs : List Char} (h : Blank cs) : Ends cs := by
  intro c hc
  have hspace := h c (List.mem_of_mem_head? hc)
  simp only [isSpace, Bool.or_eq_true, beq_iff_eq] at hspace
  rcases hspace with ((rfl | rfl) | rfl) | rfl <;> decide

theorem ends_append {spaces cs : List Char} (h : Blank spaces) (hcs : Ends cs) : Ends (spaces ++ cs) := by
  cases spaces with
  | nil => exact hcs
  | cons c spaces => exact fun d hd => ends_of_isSpace h d hd

/-- The item is taken from the front of every text that goes on as no literal does. Its own text begins with
neither a space nor a closing bracket. -/
structure Reads {α : Type} (item : List Char → Option (α × List Char)) (text : List Char) (x : α) : Prop where
  opens : ∃ c tail, text = c :: tail ∧ isSpace c = false ∧ c ≠ ']' ∧ c ≠ '\x7d'
  takes : ∀ rest, Ends rest → item (text ++ rest) = some (x, rest)

theorem Reads.skipSpace {α : Type} {item : List Char → Option (α × List Char)} {text : List Char} {x : α}
    (h : Reads item text x) (rest : List Char) : skipSpace (text ++ rest) = text ++ rest := by
  obtain ⟨c, tail, rfl, hc, -⟩ := h.opens
  exact skipSpace_of_not_isSpace hc _

/-- A reader that skips spaces finds the item behind a gap. -/
theorem Reads.takes_behind {α : Type} {item : List Char → Option (α × List Char)} {text gap rest : List Char}
    {x : α} (h : Reads item text x) (hskip : ∀ cs, item (Json.skipSpace cs) = item cs) (hgap : Blank gap)
    (hrest : Ends rest) : item (gap ++ (text ++ rest)) = some (x, rest) := by
  rw [← hskip, skipSpace_append hgap, hskip, h.takes rest hrest]

/-- Items behind gaps, with commas between them. -/
def row {α : Type} (gap : List Char) (text : α → List Char) : List α → List Char
  | [] => []
  | [x] => gap ++ text x
  | x :: xs => gap ++ text x ++ ',' :: row gap text xs

section
variable {α : Type} {item : List Char → Option (α × List Char)} {gap gap' : List Char}
  {text : α → List Char} {close : Char}

theorem row_cons_cons (gap : List Char) (text : α → List Char) (x y : α) (xs : List α) :
    row gap text (x :: y :: xs) = gap ++ (text x ++ ',' :: row gap text (y :: xs)) := by
  rw [row, List.append_assoc]
  exact List.cons_ne_nil y xs

theorem length_le_row {xs : List α} (h : ∀ x ∈ xs, Reads item (text x) x) :
    xs.length ≤ (row gap text xs).length := by
  induction xs with
  | nil => exact Nat.le_refl 0
  | cons x xs ih =>
    have hpos : 0 < (text x).length := by
      obtain ⟨c, tail, hc, -⟩ := (h x List.mem_cons_self).opens
      rw [hc]
      exact Nat.succ_pos _
    have hrest := ih fun y hy => h y (List.mem_cons_of_mem x hy)
    cases xs with
    | nil =>
      simp only [row, List.length_append, List.length_cons, List.length_nil]
      omega
    | cons y ys =>
      rw [row_cons_cons]
      simp only [List.length_append, List.length_cons] at hrest ⊢
      omega

/-- A row of items is read up to the closing bracket, if there is fuel for all of them. -/
theorem items?_row (hskip : ∀ cs, item (skipSpace cs) = item cs) (hgap : Blank gap) (hgap' : Blank gap')
    (hclose : close = ']' ∨ close = '\x7d') {xs : List α} (hxs : xs ≠ []) (h : ∀ x ∈ xs, Reads item (text x) x)
    {n : Nat} (hn : xs.length ≤ n) (rest : List Char) :
    items? close item n (row gap text xs ++ (gap' ++ close :: rest)) = some (xs, rest) := by
  induction xs generalizing n with
  | nil => exact absurd rfl hxs
  | cons x xs ih =>
    obtain ⟨n, rfl⟩ : ∃ m, n = m + 1 := ⟨n - 1, by simp only [List.length_cons] at hn; omega⟩
    have hx := h x List.mem_cons_self
    -- Behind the last item stands the bracket, behind every other one a comma; no literal goes on with either.
    cases xs with
    | nil =>
      have hends : Ends (gap' ++ close :: rest) := ends_append hgap' fun c hc => by
        obtain rfl : close = c := Option.some.inj hc
        rcases hclose with rfl | rfl <;> decide
      have hback : skipSpace (gap' ++ close :: rest) = close :: rest := by
        rw [skipSpace_append hgap']
        rcases hclose with rfl | rfl <;> rfl
      rw [row, List.append_assoc, items?, hx.takes_behind hskip hgap hends, Option.bind_eq_bind,
        Option.bind_some]
      dsimp only
      rw [hback]
      rcases hclose with rfl | rfl <;> rfl
    | cons y ys =>
      have hends : Ends (',' :: (row gap text (y :: ys) ++ (gap' ++ close :: rest))) := by
        intro c hc
        obtain rfl : ',' = c := Option.some.inj hc
        decide
      have hrest := ih (List.cons_ne_nil y ys) (fun z hz => h z (List.mem_cons_of_mem x hz))
        (n := n) (by simp only [List.length_cons] at hn ⊢; omega)
      rw [row_cons_cons, List.append_assoc, List.append_assoc, List.cons_append, items?,
        hx.takes_behind hskip hgap hends, Option.bind_eq_bind, Option.bind_some]
      dsimp only
      rw [skipSpace_of_not_isSpace (by decide)]
      change (items? close item n _).map _ = _
      rw [hrest]
      rfl

theorem items?_skipSpace (hskip : ∀ cs, item (skipSpace cs) = item cs) (n : Nat) (cs : List Char) :
    items? close item n (skipSpace cs) = items? close item n cs := by
  cases n with
  | zero => rfl
  | succ n => rw [items?, items?, hskip]

/-- A row of items between brackets is read, with or without items. -/
theorem sequence?_row (hskip : ∀ cs, item (skipSpace cs) = item cs) (hgap : Blank gap) (hgap' : Blank gap')
    (hclose : close = ']' ∨ close = '\x7d') {xs : List α} (h : ∀ x ∈ xs, Reads item (text x) x)
    (rest : List Char) :
    sequence? close item (row gap text xs ++ (gap' ++ close :: rest)) = some (xs, rest) := by
  cases xs with
  | nil =>
    have hback : skipSpace (row gap text [] ++ (gap' ++ close :: rest)) = close :: rest := by
      rw [row, List.nil_append, skipSpace_append hgap']
      rcases hclose with rfl | rfl <;> rfl
    rw [sequence?, hback]
    exact if_pos rfl
  | cons x xs =>
    have hfuel : (x :: xs).length ≤ (row gap text (x :: xs) ++ (gap' ++ close :: rest)).length + 1 := by
      have hlength : (x :: xs).length ≤ (row gap text (x :: xs)).length := length_le_row h
      rw [List.length_append]
      omega
    -- The reader of sequences looks behind the first gap before it calls that of items.
    have hread := items?_row hskip hgap hgap' hclose (List.cons_ne_nil x xs) h hfuel rest
    rw [← items?_skipSpace hskip] at hread
    obtain ⟨c, tail, hc, -, hne, hne'⟩ := (h x List.mem_cons_self).opens
    have hfront : ∃ tail', skipSpace (row gap text (x :: xs) ++ (gap' ++ close :: rest)) = c :: tail' := by
      cases xs with
      | nil =>
        rw [row, List.append_assoc, skipSpace_append hgap, (h x List.mem_cons_self).skipSpace, hc]
        exact ⟨_, rfl⟩
      | cons y ys =>
        rw [row_cons_cons, List.append_assoc, List.append_assoc, skipSpace_append hgap,
          (h x List.mem_cons_self).skipSpace, hc]
        exact ⟨_, rfl⟩
    obtain ⟨tail', hfront⟩ := hfront
    have hopen : c ≠ close := by rcases hclose with rfl | rfl <;> assumption
    rw [hfront] at hread
    rw [sequence?, hfront]
    exact (if_neg hopen).trans hread

end

/-! ## Values -/

theorem value?_skipSpace (depth : Nat) (cs : List Char) : value? depth (skipSpace cs) = value? depth cs := by
  rw [value?, value?, skipSpace_skipSpace]

theorem keyed?_skipSpace (value : List Char → Option (Json × List Char)) (cs : List Char) :
    keyed? value (skipSpace cs) = keyed? value cs := by
  rw [keyed?, keyed?, skipSpace_skipSpace]

theorem head?_numberText {n : Number} (hn : n.IsJson) :
    ∃ c tail, numberText n = c :: tail ∧ (c.isDigit = true ∨ c = '-') := by
  obtain ⟨w, htext, -, -⟩ := exists_literal hn
  obtain ⟨d, ds, hw, hd⟩ := w.exists_whole
  rw [htext, Written.text, hw]
  cases w.negative with
  | true => exact ⟨'-', _, rfl, .inr rfl⟩
  | false => exact ⟨d, _, rfl, .inl hd⟩

theorem value?_string (depth : Nat) (cs : List Char) :
    value? depth ('"' :: cs) = (stringBody cs).map fun (s, rest) => (.string (String.ofList s), rest) := by
  rw [value?]
  rfl

theorem value?_array (depth : Nat) (cs : List Char) :
    value? (depth + 1) ('[' :: cs) =
      (sequence? ']' (value? depth) cs).map fun (xs, rest) => (.array xs, rest) := by
  rw [value?]
  rfl

theorem value?_object (depth : Nat) (cs : List Char) :
    value? (depth + 1) ('\x7b' :: cs) =
      (sequence? '\x7d' (keyed? (value? depth)) cs).map fun (ms, rest) => (.object ms, rest) := by
  rw [value?]
  rfl

/-- What begins like a number is neither a space nor a bracket, and no other value begins so. -/
theorem ne_of_opens_number {c d : Char} (hc : c.isDigit = true ∨ c = '-')
    (hd : d.isDigit = false ∧ d ≠ '-') : c ≠ d := by
  rintro rfl
  rcases hc with hdigit | hminus
  · rw [hd.1] at hdigit
    cases hdigit
  · exact hd.2 hminus

theorem isSpace_of_opens_number {c : Char} (hc : c.isDigit = true ∨ c = '-') : isSpace c = false := by
  simp [isSpace, ne_of_opens_number hc]

theorem value?_number (depth : Nat) {c : Char} (hc : c.isDigit = true ∨ c = '-') (cs : List Char) :
    value? depth (c :: cs) = (number? (c :: cs)).map fun (n, rest) => (.number n, rest) := by
  rw [value?, skipSpace_of_not_isSpace (isSpace_of_opens_number hc)]
  split <;> first
    | next rest heq => exact absurd (List.cons.inj heq).1 (ne_of_opens_number hc (by decide))
    | rfl

theorem reads_number (depth : Nat) {n : Number} (hn : n.IsJson) :
    Reads (value? depth) (numberText n) (.number n) := by
  obtain ⟨c, tail, hc, hhead⟩ := head?_numberText hn
  refine ⟨⟨c, tail, hc, isSpace_of_opens_number hhead, ne_of_opens_number hhead (by decide),
    ne_of_opens_number hhead (by decide)⟩, fun rest hrest => ?_⟩
  have hread := number?_numberText hn hrest
  rw [hc, List.cons_append] at hread ⊢
  rw [value?_number depth hhead, hread]
  rfl

theorem reads_string (depth : Nat) (s : String) : Reads (value? depth) (stringText s) (.string s) := by
  refine ⟨⟨'"', _, rfl, by decide, by decide, by decide⟩, fun rest _ => ?_⟩
  rw [stringText_append, value?_string, stringBody_escaped]
  exact congrArg (fun s => some (Json.string s, rest)) String.ofList_toList

/-- The text of a value that is neither an array nor an object is read. -/
theorem Fits.reads_leaf {depth : Nat} {v : Json} (h : Fits depth v) (hv : v.isContainer = false) :
    Reads (value? depth) (compact v) v := by
  cases h with
  | null =>
    refine ⟨⟨'n', _, rfl, by decide, by decide, by decide⟩, fun rest _ => ?_⟩
    rw [value?]
    rfl
  | bool _ b =>
    cases b with
    | true =>
      refine ⟨⟨'t', _, rfl, by decide, by decide, by decide⟩, fun rest _ => ?_⟩
      rw [value?]
      rfl
    | false =>
      refine ⟨⟨'f', _, rfl, by decide, by decide, by decide⟩, fun rest _ => ?_⟩
      rw [value?]
      rfl
  | number _ hn => exact reads_number depth hn
  | string _ s => exact reads_string depth s
  | array | object => cases hv

theorem reads_array {depth : Nat} {gap gap' : List Char} {text : Json → List Char} {xs : List Json}
    (hgap : Blank gap) (hgap' : Blank gap') (h : ∀ x ∈ xs, Reads (value? depth) (text x) x) :
    Reads (value? (depth + 1)) ('[' :: (row gap text xs ++ (gap' ++ [']']))) (.array xs) := by
  refine ⟨⟨'[', _, rfl, by decide, by decide, by decide⟩, fun rest _ => ?_⟩
  rw [List.cons_append, List.append_assoc, List.append_assoc, List.singleton_append, value?_array,
    sequence?_row (value?_skipSpace depth) hgap hgap' (.inl rfl) h]
  rfl

/-- The text of a member: its key, a colon, perhaps a gap, and its value. -/
def memberText (gap : List Char) (text : Json → List Char) (m : String × Json) : List Char :=
  stringText m.1 ++ ':' :: (gap ++ text m.2)

theorem reads_member {depth : Nat} {gap : List Char} {text : Json → List Char} (hgap : Blank gap)
    {m : String × Json} (h : Reads (value? depth) (text m.2) m.2) :
    Reads (keyed? (value? depth)) (memberText gap text m) m := by
  refine ⟨⟨'"', _, rfl, by decide, by decide, by decide⟩, fun rest hrest => ?_⟩
  have hvalue := h.takes_behind (value?_skipSpace depth) hgap hrest
  rw [memberText, List.append_assoc, stringText_append, List.cons_append, List.append_assoc, keyed?,
    skipSpace_of_not_isSpace (by decide)]
  change (stringBody _ >>= _) = _
  rw [stringBody_escaped, Option.bind_eq_bind, Option.bind_some]
  dsimp only
  rw [skipSpace_of_not_isSpace (by decide)]
  change (value? depth _ >>= _) = _
  rw [hvalue, Option.bind_eq_bind, Option.bind_some, String.ofList_toList]

theorem reads_object {depth : Nat} {gap gap' gap'' : List Char} {text : Json → List Char}
    {ms : List (String × Json)} (hgap : Blank gap) (hgap' : Blank gap') (hgap'' : Blank gap'')
    (h : ∀ m ∈ ms, Reads (value? depth) (text m.2) m.2) :
    Reads (value? (depth + 1)) ('\x7b' :: (row gap (memberText gap'' text) ms ++ (gap' ++ ['\x7d'])))
      (.object ms) := by
  refine ⟨⟨'\x7b', _, rfl, by decide, by decide, by decide⟩, fun rest _ => ?_⟩
  rw [List.cons_append, List.append_assoc, List.append_assoc, List.singleton_append, value?_object,
    sequence?_row (keyed?_skipSpace _) hgap hgap' (.inr rfl) fun m hm => reads_member hgap'' (h m hm)]
  rfl

/-! ## The two layouts -/

theorem compactItems_eq_row (xs : List Json) : compactItems xs = row [] compact xs := by
  induction xs with
  | nil => rfl
  | cons x xs ih =>
    cases xs with
    | nil => rfl
    | cons y ys => rw [row_cons_cons, ← ih]; rfl

theorem compactMembers_eq_row (ms : List (String × Json)) :
    compactMembers ms = row [] (memberText [] compact) ms := by
  induction ms with
  | nil => rfl
  | cons m ms ih =>
    cases ms with
    | nil => rfl
    | cons n ns => rw [row_cons_cons, ← ih]; simp [compactMembers, memberText]

theorem prettyItems_eq_row (level : Nat) (xs : List Json) :
    prettyItems level xs = row (newline level) (pretty level) xs := by
  induction xs with
  | nil => rfl
  | cons x xs ih =>
    cases xs with
    | nil => rfl
    | cons y ys => rw [row_cons_cons, ← ih]; simp [prettyItems]

theorem prettyMembers_eq_row (level : Nat) (ms : List (String × Json)) :
    prettyMembers level ms = row (newline level) (memberText [' '] (pretty level)) ms := by
  induction ms with
  | nil => rfl
  | cons m ms ih =>
    cases ms with
    | nil => simp [prettyMembers, row, memberText]
    | cons n ns => rw [row_cons_cons, ← ih]; simp [prettyMembers, memberText]

theorem blank_newline (level : Nat) : Blank (newline level) := by
  intro c hc
  rcases List.mem_cons.mp hc with rfl | hc
  · rfl
  · rw [List.eq_of_mem_replicate hc]
    rfl

/-- A value is read from its compact text. -/
theorem Fits.reads_compact {depth : Nat} {v : Json} (h : Fits depth v) :
    Reads (value? depth) (compact v) v := by
  induction h with
  | null depth => exact (Fits.null depth).reads_leaf rfl
  | bool depth b => exact (Fits.bool depth b).reads_leaf rfl
  | number depth hn => exact (Fits.number depth hn).reads_leaf rfl
  | string depth s => exact (Fits.string depth s).reads_leaf rfl
  | array _ ih =>
    rw [compact, compactItems_eq_row]
    exact reads_array (List.forall_mem_nil _) (List.forall_mem_nil _) ih
  | object _ ih =>
    rw [compact, compactMembers_eq_row]
    exact reads_object (List.forall_mem_nil _) (List.forall_mem_nil _) (List.forall_mem_nil _) ih

/-- A value is read from its pretty text, however far that is indented. -/
theorem Fits.reads_pretty {depth : Nat} {v : Json} (h : Fits depth v) (level : Nat) :
    Reads (value? depth) (pretty level v) v := by
  induction h generalizing level with
  | null depth => exact (Fits.null depth).reads_leaf rfl
  | bool depth b => exact (Fits.bool depth b).reads_leaf rfl
  | number depth hn => exact (Fits.number depth hn).reads_leaf rfl
  | string depth s => exact (Fits.string depth s).reads_leaf rfl
  | @array depth xs h ih =>
    cases xs with
    | nil => exact (Fits.array h).reads_compact
    | cons x xs =>
      rw [pretty, prettyItems_eq_row, List.cons_append, List.cons_append, List.append_assoc]
      exact reads_array (blank_newline _) (blank_newline level) fun y hy => ih y hy (level + 1)
  | @object depth ms h ih =>
    cases ms with
    | nil => exact (Fits.object h).reads_compact
    | cons m ms =>
      rw [pretty, prettyMembers_eq_row, List.cons_append, List.cons_append, List.append_assoc]
      exact reads_object (blank_newline _) (blank_newline level) (List.forall_mem_singleton.mpr rfl)
        fun n hn => ih n hn (level + 1)

/-- A whole text is read, with space behind the value or not. -/
theorem Reads.read? {text : List Char} {v : Json} (h : Reads (value? maxDepth) text v) {spaces : List Char}
    (hspaces : Blank spaces) : Json.read? (String.ofList (text ++ spaces)) = some v := by
  rw [Json.read?, String.toList_ofList, h.takes spaces (ends_of_isSpace hspaces)]
  exact if_pos (List.all_eq_true.mpr hspaces)

theorem codec_read_of_reads {text : List Char} {v : Json} (h : Reads (value? maxDepth) text v)
    {spaces : List Char} (hspaces : Blank spaces) : codec.read (String.ofList (text ++ spaces)) = .ok v := by
  simp only [codec, h.read? hspaces]

/-- A value that is not nested too deep is read from its compact text. -/
theorem codec_read_compact {v : Json} (h : Fits maxDepth v) : codec.read (codec.compact v) = .ok v := by
  have hread := codec_read_of_reads h.reads_compact (List.forall_mem_nil _)
  rwa [List.append_nil] at hread

theorem codec_parse_compact {v : Json} (h : Fits maxDepth v) (hv : v.canonical = v) :
    codec.parse (codec.compact v) = .ok v := by
  rw [JsonCodec.parse, codec_read_compact h]
  exact congrArg Except.ok hv

/-- A canonical value that is not nested too deep is read back from its pretty text. -/
theorem codec_readsBack {v : Json} (h : Fits maxDepth v) (hv : v.canonical = v) : codec.ReadsBack v := by
  have hblank : Blank ['\n'] := List.forall_mem_singleton.mpr rfl
  have hread := codec_read_of_reads (h.reads_pretty 0) hblank
  rw [String.ofList_append] at hread
  rw [JsonCodec.ReadsBack, JsonCodec.parse]
  change (codec.read (String.ofList (pretty 0 v) ++ String.ofList ['\n'])).map canonical = _
  rw [hread]
  exact congrArg Except.ok hv

end Sift.Json
