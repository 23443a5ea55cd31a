import Mathlib.Data.List.Perm.Subperm
import Sift.Proofs.Builtin.Ordering
import Sift.Proofs.Number.Value

/-! # Values that nothing tells apart

Strictly equal values have the same shape, and at the same places they have equal numbers. If no integer
beyond the limit faces a double there, the two values are interchangeable: as the value that a field is
compared with, both have the same order, the same text and the same strict equality.
-/
namespace Sift.Json

structure Alike (x y : Json) : Prop where
  kind : x.kind = y.kind
  strictEq : ∀ v : Json, v.strictEq x = v.strictEq y
  order? : ∀ field, Json.order? field x = Json.order? field y
  toText? : x.toText? = y.toText?
  string : ∀ s, x = .string s ↔ y = .string s

theorem Alike.refl (x : Json) : Alike x x := ⟨rfl, fun _ => rfl, fun _ => rfl, rfl, fun _ => Iff.rfl⟩

/-- Two numbers at the same place of two values. -/
inductive Facing : Json → Json → Number → Number → Prop
  | here (p q : Number) : Facing (.number p) (.number q) p q
  | element {xs ys : List Json} {x y : Json} {p q : Number} (hxy : (x, y) ∈ xs.zip ys)
      (h : Facing x y p q) : Facing (.array xs) (.array ys) p q
  | member {ms ns : List (String × Json)} {key : String} {x y : Json} {p q : Number}
      (hx : (key, x) ∈ ms) (hy : (key, y) ∈ ns) (h : Facing x y p q) : Facing (.object ms) (.object ns) p q

theorem alike_numbers {p q : Number} (h : p.Interchangeable q) : Alike (.number p) (.number q) where
  kind := rfl
  strictEq v := by
    cases v with
    | number r => simp only [Json.strictEq, h.compare? r]
    | null | bool _ | string _ | array _ | object _ => simp only [Json.strictEq]
  order? field := by
    cases field with
    | none => rfl
    | some v =>
      rw [order?_of_not_strings (by simp), order?_of_not_strings (by simp)]
      unfold numericOrder?
      cases v.toNumber? with
      | none => rfl
      | some r => exact h.compare? r
  toText? := congrArg some h.toText
  string s := by simp

/-- Arrays and objects have no order and no text. -/
theorem alike_containers {x y : Json} (hkind : x.kind = y.kind) (hx : x.isContainer = true)
    (hstrict : ∀ v : Json, v.strictEq x = v.strictEq y) : Alike x y := by
  have hy : y.isContainer = true := by rwa [isContainer, ← hkind]
  have hnone : ∀ {v : Json}, v.isContainer = true →
      v.toText? = none ∧ (∀ field, Json.order? field v = none) ∧ ∀ s, v ≠ .string s := by
    intro v hv
    cases v with
    | null | bool _ | number _ | string _ => cases hv
    | array _ | object _ =>
      refine ⟨rfl, fun field => ?_, fun s hs => by cases hs⟩
      cases field with
      | none => rfl
      | some u =>
        rw [order?_of_not_strings (by simp), numericOrder?]
        cases u.toNumber? <;> rfl
  obtain ⟨htx, hox, hsx⟩ := hnone hx
  obtain ⟨hty, hoy, hsy⟩ := hnone hy
  refine ⟨hkind, hstrict, fun field => ?_, htx.trans hty.symm, fun s => ?_⟩
  · rw [hox, hoy]
  · exact iff_of_false (hsx s) (hsy s)

theorem strictEqItems_congr {xs ys : List Json} (h : List.Forall₂ Alike xs ys) (vs : List Json) :
    strictEqItems vs xs = strictEqItems vs ys := by
  induction h generalizing vs with
  | nil => rfl
  | cons hxy _ ih =>
    cases vs with
    | nil => simp only [strictEqItems]
    | cons v vs => simp only [strictEqItems, hxy.strictEq v, ih vs]

theorem alike_arrays {xs ys : List Json} (h : List.Forall₂ Alike xs ys) : Alike (.array xs) (.array ys) := by
  refine alike_containers rfl rfl fun v => ?_
  cases v with
  | array vs => simp only [Json.strictEq, strictEqItems_congr h vs]
  | null | bool _ | number _ | string _ | object _ => simp only [Json.strictEq]

/-- What two tables hold under a key, if anything, is alike. -/
def AlikeAt (ms ns : List (String × Json)) (key : String) : Prop :=
  (ms.lookup key = none ∧ ns.lookup key = none) ∨
    ∃ x y, ms.lookup key = some x ∧ ns.lookup key = some y ∧ Alike x y

theorem strictEqMembers_congr {ms ns : List (String × Json)} (h : ∀ key, AlikeAt ms ns key)
    (vs : List (String × Json)) : strictEqMembers vs ms = strictEqMembers vs ns := by
  induction vs with
  | nil => simp only [strictEqMembers]
  | cons e vs ih =>
    obtain ⟨key, v⟩ := e
    simp only [strictEqMembers, ih]
    rcases h key with ⟨hm, hn⟩ | ⟨x, y, hm, hn, hxy⟩
    · rw [hm, hn]
    · rw [hm, hn]
      simp only [hxy.strictEq v]

theorem alike_objects {ms ns : List (String × Json)} (hlength : ms.length = ns.length)
    (h : ∀ key, AlikeAt ms ns key) : Alike (.object ms) (.object ns) := by
  refine alike_containers rfl rfl fun v => ?_
  cases v with
  | object vs => simp only [Json.strictEq, hlength, strictEqMembers_congr h vs]
  | null | bool _ | number _ | string _ | array _ => simp only [Json.strictEq]

/-- If a table with distinct keys is as long as another one that has all its keys, then both have the same
keys. -/
theorem perm_keys {ms ns : List (String × Json)} (hms : (ms.map Prod.fst).Nodup)
    (hlength : ms.length = ns.length) (h : ∀ key x, (key, x) ∈ ms → ∃ y, ns.lookup key = some y) :
    (ms.map Prod.fst).Perm (ns.map Prod.fst) := by
  have hsubset : ms.map Prod.fst ⊆ ns.map Prod.fst := by
    intro k hk
    obtain ⟨⟨k, x⟩, he, rfl⟩ := List.mem_map.mp hk
    obtain ⟨y, hy⟩ := h k x he
    exact List.mem_map.mpr ⟨(k, y), mem_of_lookup_eq_some hy, rfl⟩
  refine (List.subperm_of_subset hms hsubset).perm_of_length_le ?_
  rw [List.length_map, List.length_map, hlength]

theorem alikeAt_of_members {ms ns : List (String × Json)} (hms : (ms.map Prod.fst).Nodup)
    (hlength : ms.length = ns.length)
    (h : ∀ key x, (key, x) ∈ ms → ∃ y, ns.lookup key = some y ∧ Alike x y) (key : String) :
    AlikeAt ms ns key := by
  have hperm := perm_keys hms hlength fun key x hx => (h key x hx).imp fun y hy => hy.1
  cases hm : ms.lookup key with
  | some x =>
    obtain ⟨y, hy, hxy⟩ := h key x (mem_of_lookup_eq_some hm)
    exact .inr ⟨x, y, hm, hy, hxy⟩
  | none =>
    refine .inl ⟨hm, ?_⟩
    cases hn : ns.lookup key with
    | none => rfl
    | some y =>
      have hmem : key ∈ ns.map Prod.fst := List.mem_map.mpr ⟨(key, y), mem_of_lookup_eq_some hn, rfl⟩
      exact absurd (hperm.mem_iff.mpr hmem) (notMem_keys_of_lookup_eq_none hm)

theorem nodup_keys {ms : List (String × Json)} (h : (ms.map Prod.fst).Pairwise (· < ·)) :
    (ms.map Prod.fst).Nodup := by
  refine h.imp fun {k l} hlt heq => ?_
  rw [heq] at hlt
  exact String.lt_irrefl _ hlt

theorem kind_eq_of_strictEq {x y : Json} (h : x.strictEq y = true) : x.kind = y.kind := by
  cases x <;> cases y <;> first | rfl | simp [Json.strictEq] at h

theorem isCanonical_of_mem_items {xs : List Json} (h : ItemsCanonical xs) : ∀ x ∈ xs, x.IsCanonical := by
  induction xs with
  | nil => exact fun x hx => absurd hx List.not_mem_nil
  | cons y xs ih => exact List.forall_mem_cons.mpr ⟨h.1, ih h.2⟩

theorem isCanonical_of_mem_members {ms : List (String × Json)} (h : MembersCanonical ms) :
    ∀ e ∈ ms, e.2.IsCanonical := by
  induction ms with
  | nil => exact fun e he => absurd he List.not_mem_nil
  | cons e ms ih => exact List.forall_mem_cons.mpr ⟨h.1, ih h.2⟩

theorem forall₂_of_strictEqItems {xs ys : List Json} (h : strictEqItems xs ys = true)
    (hall : ∀ x y, (x, y) ∈ xs.zip ys → x.strictEq y = true → Alike x y) : List.Forall₂ Alike xs ys := by
  induction xs generalizing ys with
  | nil =>
    cases ys with
    | nil => exact .nil
    | cons y ys => simp [strictEqItems] at h
  | cons x xs ih =>
    cases ys with
    | nil => simp [strictEqItems] at h
    | cons y ys =>
      simp only [strictEqItems, Bool.and_eq_true] at h
      rw [List.zip_cons_cons] at hall
      have hrest := ih h.2 fun a b hab => hall a b (List.mem_cons_of_mem _ hab)
      exact .cons (hall x y List.mem_cons_self h.1) hrest

theorem exists_of_strictEqMembers {ms ns : List (String × Json)} (h : strictEqMembers ms ns = true) :
    ∀ key x, (key, x) ∈ ms → ∃ y, ns.lookup key = some y ∧ x.strictEq y = true := by
  induction ms with
  | nil => exact fun key x hx => absurd hx List.not_mem_nil
  | cons e ms ih =>
    obtain ⟨k, v⟩ := e
    simp only [strictEqMembers, Bool.and_eq_true] at h
    intro key x hx
    rcases List.mem_cons.mp hx with heq | hx
    · cases heq
      cases hl : ns.lookup k with
      | none =>
        rw [hl] at h
        cases h.1
      | some y =>
        rw [hl] at h
        exact ⟨y, rfl, h.1⟩
    · exact ih h.2 key x hx

/-- Induction on values, with all elements of an array and all members of an object at once. -/
@[elab_as_elim]
theorem inductionOn {motive : Json → Prop} (x : Json) (leaf : ∀ x : Json, x.isContainer = false → motive x)
    (array : ∀ xs, (∀ x ∈ xs, motive x) → motive (.array xs))
    (object : ∀ ms, (∀ e ∈ ms, motive e.2) → motive (.object ms)) : motive x :=
  match x with
  | .null => leaf _ rfl
  | .bool _ => leaf _ rfl
  | .number _ => leaf _ rfl
  | .string _ => leaf _ rfl
  | .array xs => array xs fun x _ => inductionOn x leaf array object
  | .object ms => object ms fun e _ => inductionOn e.2 leaf array object
termination_by sizeOf x
decreasing_by
  · have hsize := List.sizeOf_lt_of_mem ‹_ ∈ xs›
    simp only [Json.array.sizeOf_spec]
    omega
  · have hsize := List.sizeOf_lt_of_mem ‹_ ∈ ms›
    obtain ⟨key, x⟩ := e
    simp only [Json.object.sizeOf_spec, Prod.mk.sizeOf_spec] at hsize ⊢
    omega

theorem alike_of_leaf {x y : Json} (hleaf : x.isContainer = false) (hx : x.IsCanonical) (hy : y.IsCanonical)
    (hexact : ∀ p q, Facing x y p q → p.ExactPair q) (h : x.strictEq y = true) : Alike x y := by
  have hkind := kind_eq_of_strictEq h
  cases x with
  | null =>
    cases y with
    | null => exact .refl _
    | _ => cases hkind
  | bool a =>
    cases y with
    | bool b =>
      simp only [Json.strictEq, beq_iff_eq] at h
      exact h ▸ .refl _
    | _ => cases hkind
  | string a =>
    cases y with
    | string b =>
      simp only [Json.strictEq, beq_iff_eq] at h
      exact h ▸ .refl _
    | _ => cases hkind
  | number p =>
    cases y with
    | number q =>
      simp only [Json.strictEq, beq_iff_eq] at h
      exact alike_numbers (Number.interchangeable_of_equal hx hy (hexact p q (.here p q)) h)
    | _ => cases hkind
  | array _ | object _ => cases hleaf

/-- Strictly equal values are alike, unless an integer beyond the limit faces a double. -/
theorem alike_of_strictEq {x y : Json} (hx : x.IsCanonical) (hy : y.IsCanonical)
    (hexact : ∀ p q, Facing x y p q → p.ExactPair q) (h : x.strictEq y = true) : Alike x y := by
  induction x using inductionOn generalizing y with
  | leaf x hleaf => exact alike_of_leaf hleaf hx hy hexact h
  | array xs ih =>
    have hkind := kind_eq_of_strictEq h
    cases y with
    | array ys =>
      simp only [Json.strictEq] at h
      refine alike_arrays (forall₂_of_strictEqItems h fun x y hxy hequal => ?_)
      obtain ⟨hmemx, hmemy⟩ := List.of_mem_zip hxy
      exact ih x hmemx (isCanonical_of_mem_items hx x hmemx) (isCanonical_of_mem_items hy y hmemy)
        (fun p q hf => hexact p q (.element hxy hf)) hequal
    | _ => cases hkind
  | object ms ih =>
    have hkind := kind_eq_of_strictEq h
    cases y with
    | object ns =>
      simp only [Json.strictEq, Bool.and_eq_true, beq_iff_eq] at h
      refine alike_objects h.1 (alikeAt_of_members (nodup_keys hx.1) h.1 fun key x hmemx => ?_)
      obtain ⟨y, hl, hequal⟩ := exists_of_strictEqMembers h.2 key x hmemx
      have hmemy := mem_of_lookup_eq_some hl
      exact ⟨y, hl, ih (key, x) hmemx (isCanonical_of_mem_members hx.2 _ hmemx)
        (isCanonical_of_mem_members hy.2 _ hmemy) (fun p q hf => hexact p q (.member hmemx hmemy hf)) hequal⟩
    | _ => cases hkind

end Sift.Json
