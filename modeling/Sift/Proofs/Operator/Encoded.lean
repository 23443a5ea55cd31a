import Sift.Proofs.Operator.Written

/-! # Markers in encoded texts

The test for a marker needs no characters. A character of ASCII is one byte in UTF-8, and any other one begins
with a byte that is none of ASCII. So the word of a marker stands at the start of the bytes, up to the case of
its letters, only where it stands at the start of the text, and bytes that are cut behind it encode what
follows.
-/
namespace Sift

namespace Text

/-- The bytes of a row of characters. -/
def encode (cs : List Char) : List UInt8 := cs.flatMap String.utf8EncodeChar

/-- A capital letter of ASCII in lower case; other bytes as they are. -/
def lowerByte (b : UInt8) : UInt8 := if 65 ≤ b ∧ b ≤ 90 then b + 32 else b

theorem toList_data_toUTF8 (s : String) : s.toUTF8.data.toList = encode s.toList := by
  rw [String.toUTF8_eq_toByteArray, ← String.utf8Encode_toList, List.utf8Encode, List.toList_data_toByteArray]
  rfl

theorem encode_cons_of_lt {c : Char} (hc : c.toNat < 128) (cs : List Char) :
    encode (c :: cs) = UInt8.ofNat c.toNat :: encode cs := by
  have hchar : String.utf8EncodeChar c = [UInt8.ofNat c.toNat] := if_pos (Nat.le_of_lt_succ hc)
  rw [encode, List.flatMap_cons, hchar]
  rfl

/-- The first byte of any other character has its highest bit set. -/
theorem encode_cons_of_le {c : Char} (hc : 128 ≤ c.toNat) (cs : List Char) :
    ∃ b bs, encode (c :: cs) = b :: bs ∧ 128 ≤ b.toNat := by
  have hchar : ∃ b bs, String.utf8EncodeChar c = b :: bs ∧ 128 ≤ b.toNat := by
    have hval : 128 ≤ c.val.toNat := hc
    unfold String.utf8EncodeChar
    dsimp only
    split_ifs
    · omega
    all_goals
      refine ⟨_, _, rfl, ?_⟩
      rw [UInt8.toNat_ofNat']
      omega
  obtain ⟨b, bs, hb, hhigh⟩ := hchar
  refine ⟨b, bs ++ encode cs, ?_, hhigh⟩
  rw [encode, List.flatMap_cons, hb]
  rfl

theorem toNat_lowerByte (b : UInt8) :
    (lowerByte b).toNat = if 65 ≤ b.toNat ∧ b.toNat ≤ 90 then b.toNat + 32 else b.toNat := by
  simp only [lowerByte, UInt8.le_iff_toNat_le, apply_ite UInt8.toNat, UInt8.toNat_add, UInt8.reduceToNat]
  split_ifs <;> omega

end Text

namespace OperatorName
open Text

theorem lowerByte_eq_iff {c d : Char} (hc : c.toNat < 128) (hd : d.toNat < 128) :
    lowerByte (UInt8.ofNat c.toNat) = UInt8.ofNat d.toNat ↔ c.toLower = d := by
  rw [← UInt8.toNat_inj, ← Char.toNat_inj, toNat_lowerByte, toNat_toLower, UInt8.toNat_ofNat',
    UInt8.toNat_ofNat', Nat.mod_eq_of_lt (by omega), Nat.mod_eq_of_lt (by omega)]

/-- At the start of the bytes stands a word of ASCII, up to the case of letters, exactly if it stands at the
start of the text. -/
theorem map_lowerByte_take_eq_iff {word : List Char} (hword : ∀ d ∈ word, d.toNat < 128) (cs : List Char) :
    ((encode cs).take word.length).map lowerByte = encode word ↔
      (cs.take word.length).map Char.toLower = word := by
  induction word generalizing cs with
  | nil => simp [encode]
  | cons d word ih =>
    obtain ⟨hd, hrest⟩ := List.forall_mem_cons.mp hword
    rw [encode_cons_of_lt hd]
    cases cs with
    | nil => simp [encode]
    | cons c cs =>
      by_cases hc : c.toNat < 128
      · rw [encode_cons_of_lt hc]
        simp only [List.length_cons, List.take_succ_cons, List.map_cons, List.cons.injEq, lowerByte_eq_iff hc hd,
          ih hrest]
      · -- Neither the first byte nor the character is the lower case of anything in ASCII.
        have hc : 128 ≤ c.toNat := Nat.le_of_not_lt hc
        obtain ⟨b, bs, hb, hhigh⟩ := encode_cons_of_le hc cs
        have hbyte : lowerByte b ≠ UInt8.ofNat d.toNat := by
          rw [ne_eq, ← UInt8.toNat_inj, toNat_lowerByte, if_neg (by omega), UInt8.toNat_ofNat']
          omega
        have hchar : c.toLower ≠ d := by
          rw [ne_eq, ← Char.toNat_inj, toNat_toLower, if_neg (by omega)]
          omega
        rw [hb]
        simp [hbyte, hchar]

theorem head?_encode_eq_iff {d : Char} (hd : d.toNat < 128) (cs : List Char) :
    (encode cs).head? = some (UInt8.ofNat d.toNat) ↔ cs.head? = some d := by
  cases cs with
  | nil => simp [encode]
  | cons c cs =>
    rw [List.head?_cons, Option.some.injEq, ← Char.toNat_inj]
    by_cases hc : c.toNat < 128
    · rw [encode_cons_of_lt hc, List.head?_cons, Option.some.injEq, ← UInt8.toNat_inj, UInt8.toNat_ofNat',
        UInt8.toNat_ofNat', Nat.mod_eq_of_lt (by omega), Nat.mod_eq_of_lt (by omega)]
    · obtain ⟨b, bs, hb, hhigh⟩ := encode_cons_of_le (Nat.le_of_not_lt hc) cs
      rw [hb, List.head?_cons, Option.some.injEq, ← UInt8.toNat_inj, UInt8.toNat_ofNat']
      omega

/-- The bytes after a marker, if there is one in front: an exclamation mark, or four bytes that are the word
and a space in letters of either case. -/
def stripMarkerBytes (bs : List UInt8) : Option (List UInt8) :=
  if bs.head? = some 0x21 then some (bs.drop 1)
  else if (bs.take 4).map lowerByte = encode ['n', 'o', 't', ' '] then some (bs.drop 4)
  else none

theorem stripMarkerBytes_encode_marker {m : String} (hm : IsMarker m) (rest : List Char) :
    stripMarkerBytes (encode (m.toList ++ rest)) = some (encode rest) := by
  rcases hm.toList_eq with h | ⟨n, o, t, h, hn, ho, ht⟩
  · rw [h]
    rfl
  · rw [h]
    rcases hn with rfl | rfl <;> rcases ho with rfl | rfl <;> rcases ht with rfl | rfl <;> rfl

/-- The marker that bytes begin with is one that the characters begin with, and the cut comes between two
characters. -/
theorem stripMarkerBytes_encode (cs : List Char) :
    stripMarkerBytes (encode cs) = (stripMarker cs).map encode := by
  cases hcs : stripMarker cs with
  | some rest =>
    obtain ⟨m, hm, rfl⟩ := stripMarker_eq_some_iff.mp hcs
    exact stripMarkerBytes_encode_marker hm rest
  | none =>
    have hnone : ∀ m rest, IsMarker m → cs ≠ m.toList ++ rest := by
      rintro m rest hm rfl
      rw [stripMarker_append hm] at hcs
      cases hcs
    have hmark : (encode cs).head? ≠ some 0x21 := by
      intro h
      have hhead : cs.head? = some '!' := (head?_encode_eq_iff (by decide) cs).mp h
      obtain ⟨rest, hrest⟩ := List.head?_eq_some_iff.mp hhead
      exact hnone "!" rest (.inl rfl) hrest
    have hword : ((encode cs).take 4).map lowerByte ≠ encode ['n', 'o', 't', ' '] := by
      intro h
      have hascii : ∀ d ∈ ['n', 'o', 't', ' '], d.toNat < 128 := by simp
      have hchars := (map_lowerByte_take_eq_iff hascii cs).mp h
      refine hnone (String.ofList (cs.take 4)) (cs.drop 4) (.inr ?_) ?_
      · rw [String.toList_ofList]
        exact hchars
      · rw [String.toList_ofList, List.take_append_drop]
    rw [stripMarkerBytes, if_neg hmark, if_neg hword, Option.map_none]

end OperatorName
end Sift
