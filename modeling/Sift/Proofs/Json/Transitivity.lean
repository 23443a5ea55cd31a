import Sift.Proofs.Json.Equality
import Sift.Proofs.Number.Exact
import Sift.Proofs.Path.Stored

/-! # Strict equality in a row

If a value is strictly equal to a second one and that one to a third, then the first is strictly equal to the
third, unless a double of the second stands between two different integers. Equality with a double compares
roundings, which two integers beyond the limit of exact doubles may share; below the limit they do not.
-/
namespace Sift

namespace Number
open Binary64 (exactLimit)

variable {a b c : Number}

/-- Equal numbers are equal when they are read as doubles. -/
theorem scaled_eq_of_equal (h : a.compare? b = some .eq) : a.toBinary64.scaled = b.toBinary64.scaled := by
  by_cases hdouble : a.toInt? = none ∨ b.toInt? = none
  · exact compare_eq_iff_eq.mp (compare_scaled_of_compare? hdouble h)
  · simp only [not_or, Option.ne_none_iff_exists'] at hdouble
    obtain ⟨⟨i, hi⟩, j, hj⟩ := hdouble
    rw [compare?_of_toInt? hi hj] at h
    obtain rfl := compare_eq_iff_eq.mp (Option.some.inj h)
    rw [toBinary64_of_toInt? hi, toBinary64_of_toInt? hj]

theorem equal_of_scaled_eq (hdouble : a.toInt? = none ∨ b.toInt? = none) (ha : a.isNaN = false)
    (hb : b.isNaN = false) (h : a.toBinary64.scaled = b.toBinary64.scaled) : a.compare? b = some .eq := by
  rw [compare?_of_toInt?_eq_none hdouble, Binary64.compare?, isNaN_toBinary64, isNaN_toBinary64, ha, hb,
    compare_eq_iff_eq.mpr h]
  rfl

/-- The first and the last of three numbers are integers, and the one between them is none. -/
structure Bridged (a b c : Number) (i j : Int) : Prop where
  left : a.toInt? = some i
  middle : b.toInt? = none
  right : c.toInt? = some j

theorem Bridged.scaled_eq {i j : Int} (h : Bridged a b c i j) (hab : a.compare? b = some .eq)
    (hbc : b.compare? c = some .eq) : (Binary64.ofInt i).scaled = (Binary64.ofInt j).scaled := by
  rw [← toBinary64_of_toInt? h.left, ← toBinary64_of_toInt? h.right]
  exact (scaled_eq_of_equal hab).trans (scaled_eq_of_equal hbc)

/-- Different integers that a double makes equal are both beyond the limit. -/
theorem Bridged.exactLimit_le {i j : Int} (h : Bridged a b c i j) (hab : a.compare? b = some .eq)
    (hbc : b.compare? c = some .eq) (hne : i ≠ j) : exactLimit ≤ i.natAbs ∧ exactLimit ≤ j.natAbs := by
  have hscaled := h.scaled_eq hab hbc
  constructor
  · by_contra hi
    exact hne (Binary64.eq_of_scaled_ofInt_eq (not_le.mp hi) hscaled.symm).symm
  · by_contra hj
    exact hne (Binary64.eq_of_scaled_ofInt_eq (not_le.mp hj) hscaled)

/-- Equality of numbers is transitive but for a double between different integers. -/
theorem equal_trans (hab : a.compare? b = some .eq) (hbc : b.compare? c = some .eq)
    (h : ∀ i j, Bridged a b c i j → i = j) : a.compare? c = some .eq := by
  by_cases hdouble : a.toInt? = none ∨ c.toInt? = none
  · exact equal_of_scaled_eq hdouble (isNaN_of_compare? hab).1 (isNaN_of_compare? hbc).2
      ((scaled_eq_of_equal hab).trans (scaled_eq_of_equal hbc))
  · simp only [not_or, Option.ne_none_iff_exists'] at hdouble
    obtain ⟨⟨i, hi⟩, j, hj⟩ := hdouble
    rw [compare?_of_toInt? hi hj, Option.some.injEq, compare_eq_iff_eq]
    cases hk : b.toInt? with
    | none => exact h i j ⟨hi, hk, hj⟩
    | some k =>
      rw [compare?_of_toInt? hi hk, Option.some.injEq, compare_eq_iff_eq] at hab
      rw [compare?_of_toInt? hk hj, Option.some.injEq, compare_eq_iff_eq] at hbc
      exact hab.trans hbc

end Number

namespace Json

/-! ## Places of equal values -/

/-- Strictly equal values have the same places, with strictly equal values there. -/
theorem exists_child?_of_strictEq {x y u : Json} {s : Step} (h : x.strictEq y = true)
    (hu : x.child? s = some u) : ∃ v, y.child? s = some v ∧ u.strictEq v = true := by
  have hkind := kind_eq_of_strictEq h
  cases x with
  | array xs =>
    cases y with
    | array ys =>
      rw [strictEq, strictEqItems_iff] at h
      cases s with
      | key name => cases hu
      | index i =>
        obtain ⟨hi, rfl⟩ := List.getElem?_eq_some_iff.mp hu
        have hj : i < ys.length := h.length_eq ▸ hi
        exact ⟨ys[i], List.getElem?_eq_getElem hj, h.get hi hj⟩
    | _ => cases hkind
  | object ms =>
    cases y with
    | object ns =>
      rw [strictEq, Bool.and_eq_true, strictEqMembers_iff] at h
      cases s with
      | key name => exact h.2 name u (mem_of_lookup_eq_some hu)
      | index i => cases hu
    | _ => cases hkind
  | null | bool _ | number _ | string _ => cases hu

theorem exists_at?_of_strictEq {x y u : Json} {steps : List Step} (h : x.strictEq y = true)
    (hu : x.at? steps = some u) : ∃ v, y.at? steps = some v ∧ u.strictEq v = true := by
  induction steps generalizing x y with
  | nil =>
    obtain rfl := Option.some.inj hu
    exact ⟨y, rfl, h⟩
  | cons s steps ih =>
    obtain ⟨x', hx, hu⟩ := Option.bind_eq_some_iff.mp hu
    obtain ⟨y', hy, hequal⟩ := exists_child?_of_strictEq h hx
    obtain ⟨v, hv, huv⟩ := ih hequal hu
    refine ⟨v, ?_, huv⟩
    rw [at?, hy]
    exact hv

/-- At one place of three values a double stands between two integers. -/
def Bridges (a b c : Json) (i j : Int) : Prop :=
  ∃ steps p q r, a.at? steps = some (.number p) ∧ b.at? steps = some (.number q) ∧
    c.at? steps = some (.number r) ∧ Number.Bridged p q r i j

theorem Bridges.of_child {a b c x y z : Json} {s : Step} {i j : Int} (hx : a.child? s = some x)
    (hy : b.child? s = some y) (hz : c.child? s = some z) (h : Bridges x y z i j) : Bridges a b c i j := by
  obtain ⟨steps, p, q, r, hp, hq, hr, hbridged⟩ := h
  refine ⟨s :: steps, p, q, r, ?_, ?_, ?_, hbridged⟩
  · rwa [at?, hx, Option.bind_some]
  · rwa [at?, hy, Option.bind_some]
  · rwa [at?, hz, Option.bind_some]

theorem equal_of_at? {x y : Json} {steps : List Step} {p q : Number} (h : x.strictEq y = true)
    (hp : x.at? steps = some (.number p)) (hq : y.at? steps = some (.number q)) : p.compare? q = some .eq := by
  obtain ⟨v, hv, hpv⟩ := exists_at?_of_strictEq h hp
  obtain rfl := Option.some.inj (hq.symm.trans hv)
  rwa [strictEq, beq_iff_eq] at hpv

theorem Bridges.eq_of_strictEq {a b c : Json} {i j : Int} (h : Bridges a b c i j) (hac : a.strictEq c = true) :
    i = j := by
  obtain ⟨steps, p, q, r, hp, -, hr, hbridged⟩ := h
  have hequal := equal_of_at? hac hp hr
  rw [Number.compare?_of_toInt? hbridged.left hbridged.right] at hequal
  exact compare_eq_iff_eq.mp (Option.some.inj hequal)

theorem Bridges.exactLimit_le {a b c : Json} {i j : Int} (h : Bridges a b c i j) (hab : a.strictEq b = true)
    (hbc : b.strictEq c = true) (hne : i ≠ j) :
    Binary64.exactLimit ≤ i.natAbs ∧ Binary64.exactLimit ≤ j.natAbs := by
  obtain ⟨steps, p, q, r, hp, hq, hr, hbridged⟩ := h
  exact hbridged.exactLimit_le (equal_of_at? hab hp hq) (equal_of_at? hbc hq hr) hne

/-! ## Three values in a row -/

/-- Rows of items in a row, item by item. -/
theorem strictEqItems_trans {xs ys zs : List Json} (hxy : strictEqItems xs ys = true)
    (hyz : strictEqItems ys zs = true)
    (h : ∀ (i : Nat) x y z, xs[i]? = some x → ys[i]? = some y → zs[i]? = some z → x.strictEq y = true →
      y.strictEq z = true → x.strictEq z = true) : strictEqItems xs zs = true := by
  rw [strictEqItems_iff] at hxy hyz ⊢
  rw [List.forall₂_iff_get] at hxy hyz ⊢
  refine ⟨hxy.1.trans hyz.1, fun i hi hk => ?_⟩
  have hj : i < ys.length := hxy.1 ▸ hi
  exact h i _ _ _ (List.getElem?_eq_getElem hi) (List.getElem?_eq_getElem hj) (List.getElem?_eq_getElem hk)
    (hxy.2 i hi hj) (hyz.2 i hj hk)

theorem strictEq_objects_trans {ms ns os : List (String × Json)} (hms : (ms.map Prod.fst).Nodup)
    (hmn : (object ms).strictEq (.object ns) = true) (hno : (object ns).strictEq (.object os) = true)
    (h : ∀ key x y z, ms.lookup key = some x → ns.lookup key = some y → os.lookup key = some z →
      x.strictEq y = true → y.strictEq z = true → x.strictEq z = true) :
    (object ms).strictEq (.object os) = true := by
  rw [strictEq, Bool.and_eq_true, beq_iff_eq, strictEqMembers_iff] at hmn hno ⊢
  refine ⟨hmn.1.trans hno.1, fun key x hx => ?_⟩
  obtain ⟨y, hy, hxy⟩ := hmn.2 key x hx
  obtain ⟨z, hz, hyz⟩ := hno.2 key y (mem_of_lookup_eq_some hy)
  exact ⟨z, hz, h key x y z (lookup_eq_some_of_mem hms hx) hy hz hxy hyz⟩

/-- Strict equality is transitive if no double of the value in the middle stands between different integers. -/
theorem strictEq_trans {a b c : Json} (ha : a.IsCanonical) (hab : a.strictEq b = true)
    (hbc : b.strictEq c = true) (h : ∀ i j, Bridges a b c i j → i = j) : a.strictEq c = true := by
  have hkind := kind_eq_of_strictEq hab
  have hkind' := kind_eq_of_strictEq hbc
  induction a using inductionOn generalizing b c with
  | leaf a hleaf =>
    cases a with
    | null | bool _ | string _ =>
      cases b <;> cases c <;> simp_all [strictEq, kind]
    | number p =>
      cases b with
      | number q =>
        cases c with
        | number r =>
          rw [strictEq, beq_iff_eq] at hab hbc ⊢
          exact Number.equal_trans hab hbc fun i j hbridged => h i j ⟨[], p, q, r, rfl, rfl, rfl, hbridged⟩
        | _ => cases hkind'
      | _ => cases hkind
    | array _ | object _ => cases hleaf
  | array xs ih =>
    cases b with
    | array ys =>
      cases c with
      | array zs =>
        rw [strictEq] at hab hbc ⊢
        refine strictEqItems_trans hab hbc fun i x y z hx hy hz hxy hyz => ?_
        have hmem := List.mem_of_getElem? hx
        exact ih x hmem (isCanonical_of_mem_items ha x hmem) hxy hyz
          (fun m n hb => h m n (hb.of_child (s := .index i) hx hy hz)) (kind_eq_of_strictEq hxy)
          (kind_eq_of_strictEq hyz)
      | _ => cases hkind'
    | _ => cases hkind
  | object ms ih =>
    cases b with
    | object ns =>
      cases c with
      | object os =>
        refine strictEq_objects_trans (nodup_keys ha.1) hab hbc fun key x y z hx hy hz hxy hyz => ?_
        have hmem := mem_of_lookup_eq_some hx
        exact ih (key, x) hmem (isCanonical_of_mem_members ha.2 _ hmem) hxy hyz
          (fun m n hb => h m n (hb.of_child (s := .key key) hx hy hz)) (kind_eq_of_strictEq hxy)
          (kind_eq_of_strictEq hyz)
      | _ => cases hkind'
    | _ => cases hkind

end Json

/-- Of three values in a row of strictly equal ones the first is strictly equal to the last, at any depth and
whatever kinds of numbers stand in them, if and only if no double of the second stands between two different
integers. Both of these are then at or beyond the limit of exact doubles, which is 2^53. -/
theorem strictEq_chain {a b c : Json} (ha : a.IsCanonical) (hab : Json.fieldStrictEq (some a) b = true)
    (hbc : Json.fieldStrictEq (some b) c = true) :
    (Json.fieldStrictEq (some a) c = true ↔ ∀ i j, Json.Bridges a b c i j → i = j) ∧
    ∀ i j, Json.Bridges a b c i j → i ≠ j →
      Binary64.exactLimit ≤ i.natAbs ∧ Binary64.exactLimit ≤ j.natAbs := by
  refine ⟨⟨fun hac i j hbridges => hbridges.eq_of_strictEq hac, Json.strictEq_trans ha hab hbc⟩, ?_⟩
  exact fun i j hbridges => hbridges.exactLimit_le hab hbc

/-- Three kinds of numbers in a row, also beyond the limit and around a double. -/
theorem strictEq_chain_mixed :
    let large : Json := .number (.signed 9007199254740993)
    let a : Json := .object [("m", .array [.number (.signed 1), large]), ("n", .number (.unsigned 9223372036854775808))]
    let b : Json := .object [("m", .array [.number (.float ⟨0x3FF0000000000000⟩),
      .number (.float ⟨0x4340000000000000⟩)]), ("n", .number (.float ⟨0x43E0000000000000⟩))]
    let c : Json := .object [("m", .array [.number (.signed 1), large]),
      ("n", .number (.float ⟨0x43E0000000000000⟩))]
    a.IsCanonical ∧ Json.fieldStrictEq (some a) b = true ∧ Json.fieldStrictEq (some b) c = true ∧
    Json.Bridges a b c 9007199254740993 9007199254740993 ∧ Json.fieldStrictEq (some a) c = true ∧
    ∀ i j, Json.Bridges a b c i j → i = j := by
  intro large a b c
  have hkeys : ["m", "n"].Pairwise (· < ·) := by decide +kernel
  have hlarge : Number.IsJson (.unsigned 9223372036854775808) := by decide +kernel
  have ha : a.IsCanonical := ⟨hkeys, ⟨trivial, trivial, trivial⟩, hlarge, trivial⟩
  have hab : Json.fieldStrictEq (some a) b = true := by decide +kernel
  have hbc : Json.fieldStrictEq (some b) c = true := by decide +kernel
  have hac : Json.fieldStrictEq (some a) c = true := by decide +kernel
  have hbridges : Json.Bridges a b c 9007199254740993 9007199254740993 :=
    ⟨[.key "m", .index 1], _, _, _, rfl, rfl, rfl, ⟨rfl, rfl, rfl⟩⟩
  exact ⟨ha, hab, hbc, hbridges, hac, (strictEq_chain ha hab hbc).1.mp hac⟩

/-- The first integer that a double does not tell from the next one: the double is strictly equal to both. -/
theorem not_strictEq_chain :
    let a : Json := .number (.signed 9007199254740992)
    let b : Json := .number (.float ⟨0x4340000000000000⟩)
    let c : Json := .number (.signed 9007199254740993)
    a.IsCanonical ∧ b.IsCanonical ∧ c.IsCanonical ∧ Json.fieldStrictEq (some a) b = true ∧
    Json.fieldStrictEq (some b) c = true ∧ Json.fieldStrictEq (some a) c = false := by
  intro a b c
  have hb : Number.IsJson (.float ⟨0x4340000000000000⟩) := by decide
  refine ⟨trivial, hb, trivial, ?_, ?_, ?_⟩ <;> decide +kernel

end Sift
