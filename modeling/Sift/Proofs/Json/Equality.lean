import Sift.Proofs.Json.Alike

/-! # Strict equality of values

Rows of values are strictly equal element by element. A value is strictly equal to itself, at any depth,
because its numbers are numbers and the keys of its objects are distinct. Objects are equal if they have the
same keys and equal members under each of them: that one has no key which the other lacks follows from their
lengths, since the keys of both are distinct. So strict equality does not depend on the order of two values,
nor does that of rows of candidates.
-/
namespace Sift

theorem Number.isNaN_of_isJson {n : Number} (h : n.IsJson) : n.isNaN = false := by
  cases n with
  | signed _ | unsigned _ => rfl
  | float x => exact Binary64.isNaN_of_isFinite h

namespace Json

theorem strictEqItems_iff {xs ys : List Json} :
    strictEqItems xs ys = true ↔ List.Forall₂ (fun x y => x.strictEq y = true) xs ys := by
  induction xs generalizing ys with
  | nil => cases ys <;> simp [strictEqItems]
  | cons x xs ih => cases ys <;> simp [strictEqItems, ih]

theorem strictEqMembers_iff {ms ns : List (String × Json)} :
    strictEqMembers ms ns = true ↔
      ∀ key x, (key, x) ∈ ms → ∃ y, ns.lookup key = some y ∧ x.strictEq y = true := by
  refine ⟨exists_of_strictEqMembers, fun h => ?_⟩
  induction ms with
  | nil => simp [strictEqMembers]
  | cons e ms ih =>
    obtain ⟨key, x⟩ := e
    obtain ⟨y, hy, hxy⟩ := h key x List.mem_cons_self
    have hrest := ih fun k v hv => h k v (List.mem_cons_of_mem _ hv)
    simp [strictEqMembers, hy, hxy, hrest]

theorem strictEq_self {x : Json} (h : x.IsCanonical) : x.strictEq x = true := by
  induction x using inductionOn with
  | leaf x hleaf =>
    cases x with
    | null => simp [strictEq]
    | bool b => simp [strictEq]
    | string s => simp [strictEq]
    | number n =>
      have hn : n.isNaN = false := Number.isNaN_of_isJson h
      simp [strictEq, Number.compare?_self hn]
    | array _ | object _ => cases hleaf
  | array xs ih =>
    rw [strictEq, strictEqItems_iff]
    exact List.forall₂_same.mpr fun x hx => ih x hx (isCanonical_of_mem_items h x hx)
  | object ms ih =>
    rw [strictEq, beq_self_eq_true, Bool.true_and, strictEqMembers_iff]
    intro key x hx
    exact ⟨x, lookup_eq_some_of_mem (nodup_keys h.1) hx,
      ih (key, x) hx (isCanonical_of_mem_members h.2 (key, x) hx)⟩

/-! ## Objects -/

theorem exists_lookup_of_mem_keys {ms : List (String × Json)} {key : String} (h : key ∈ ms.map Prod.fst) :
    ∃ x, ms.lookup key = some x :=
  Option.ne_none_iff_exists'.mp fun hnone => notMem_keys_of_lookup_eq_none hnone h

theorem strictEq_objects_iff {ms ns : List (String × Json)} (hms : (ms.map Prod.fst).Nodup)
    (hns : (ns.map Prod.fst).Nodup) :
    (object ms).strictEq (.object ns) = true ↔
      (∀ key, key ∈ ms.map Prod.fst ↔ key ∈ ns.map Prod.fst) ∧
      ∀ key x y, ms.lookup key = some x → ns.lookup key = some y → x.strictEq y = true := by
  rw [strictEq, Bool.and_eq_true, beq_iff_eq, strictEqMembers_iff]
  constructor
  · rintro ⟨hlength, hmembers⟩
    have hperm := perm_keys hms hlength fun key x hx => (hmembers key x hx).imp fun y hy => hy.1
    refine ⟨fun key => hperm.mem_iff, fun key x y hx hy => ?_⟩
    obtain ⟨z, hz, hxz⟩ := hmembers key x (mem_of_lookup_eq_some hx)
    rw [hy] at hz
    exact Option.some.inj hz ▸ hxz
  · rintro ⟨hkeys, hequal⟩
    have hlength := ((List.perm_ext_iff_of_nodup hms hns).mpr hkeys).length_eq
    rw [List.length_map, List.length_map] at hlength
    refine ⟨hlength, fun key x hx => ?_⟩
    obtain ⟨y, hy⟩ := exists_lookup_of_mem_keys ((hkeys key).mp (List.mem_map.mpr ⟨(key, x), hx, rfl⟩))
    exact ⟨y, hy, hequal key x y (lookup_eq_some_of_mem hms hx) hy⟩

/-! ## Symmetry -/

theorem strictEqItems_symm {xs ys : List Json}
    (h : ∀ x ∈ xs, ∀ y ∈ ys, x.strictEq y = y.strictEq x) : strictEqItems xs ys = strictEqItems ys xs := by
  induction xs generalizing ys with
  | nil => cases ys <;> rfl
  | cons x xs ih =>
    cases ys with
    | nil => rfl
    | cons y ys =>
      have hrest := ih fun u hu v hv => h u (List.mem_cons_of_mem _ hu) v (List.mem_cons_of_mem _ hv)
      rw [strictEqItems, strictEqItems, h x List.mem_cons_self y List.mem_cons_self, hrest]

theorem strictEq_objects_symm {ms ns : List (String × Json)} (hms : (ms.map Prod.fst).Nodup)
    (hns : (ns.map Prod.fst).Nodup)
    (h : ∀ e ∈ ms, ∀ d ∈ ns, e.2.strictEq d.2 = d.2.strictEq e.2) :
    (object ms).strictEq (.object ns) = (object ns).strictEq (.object ms) := by
  rw [Bool.eq_iff_iff, strictEq_objects_iff hms hns, strictEq_objects_iff hns hms]
  have hmembers : ∀ {key x y}, ms.lookup key = some x → ns.lookup key = some y →
      x.strictEq y = y.strictEq x := fun hx hy =>
    h _ (mem_of_lookup_eq_some hx) _ (mem_of_lookup_eq_some hy)
  refine and_congr (forall_congr' fun key => Iff.comm) ⟨?_, ?_⟩ <;> intro hall key u v hu hv
  · rw [← hmembers hv hu]
    exact hall key v u hv hu
  · rw [hmembers hu hv]
    exact hall key v u hv hu

theorem strictEq_symm {x y : Json} (hx : x.IsCanonical) (hy : y.IsCanonical) :
    x.strictEq y = y.strictEq x := by
  induction x using inductionOn generalizing y with
  | leaf x hleaf =>
    cases x with
    | null => cases y <;> simp only [strictEq]
    | bool a =>
      cases y <;> simp only [strictEq]
      exact Bool.beq_comm
    | string a =>
      cases y <;> simp only [strictEq]
      exact BEq.comm
    | number m =>
      cases y <;> simp only [strictEq]
      rw [Number.compare?_swap, swap_beq_eq]
    | array _ | object _ => cases hleaf
  | array xs ih =>
    cases y with
    | array ys =>
      rw [strictEq, strictEq]
      exact strictEqItems_symm fun u hu v hv =>
        ih u hu (isCanonical_of_mem_items hx u hu) (isCanonical_of_mem_items hy v hv)
    | _ => simp only [strictEq]
  | object ms ih =>
    cases y with
    | object ns =>
      exact strictEq_objects_symm (nodup_keys hx.1) (nodup_keys hy.1) fun e he d hd =>
        ih e he (isCanonical_of_mem_members hx.2 e he) (isCanonical_of_mem_members hy.2 d hd)
    | _ => simp only [strictEq]

end Json

namespace ConditionValue
variable {a b : ConditionValue}

/-- Strictly equal candidates in the same order. -/
def SameAs (a b : ConditionValue) : Prop :=
  List.Forall₂ (fun x y => Json.strictEq x y = true) a.candidates b.candidates

theorem sameCandidates_iff : a.sameCandidates b = true ↔ a.SameAs b := Json.strictEqItems_iff

theorem SameAs.refl (h : ∀ v ∈ a.candidates, v.IsCanonical) : a.SameAs a :=
  List.forall₂_same.mpr fun v hv => Json.strictEq_self (h v hv)

theorem sameCandidates_symm (ha : ∀ v ∈ a.candidates, v.IsCanonical)
    (hb : ∀ v ∈ b.candidates, v.IsCanonical) : a.sameCandidates b = b.sameCandidates a :=
  Json.strictEqItems_symm fun u hu v hv => Json.strictEq_symm (ha u hu) (hb v hv)

end ConditionValue

/-- Strict equality of two values is reflexive and symmetric, at any depth, and two objects are strictly
equal if and only if they have the same keys and strictly equal members under each of them. So it is also
reflexive and symmetric to have the same candidates, for which one value is the same as a list of only that
value. -/
theorem strictEq_coherent {x y : Json} (hx : x.IsCanonical) (hy : y.IsCanonical) {a b : ConditionValue}
    (ha : ∀ v ∈ a.candidates, v.IsCanonical) (hb : ∀ v ∈ b.candidates, v.IsCanonical) :
    (Json.fieldStrictEq (some x) x = true ∧ Json.fieldStrictEq (some x) y = Json.fieldStrictEq (some y) x) ∧
    (∀ ms ns, x = .object ms → y = .object ns → (Json.fieldStrictEq (some x) y = true ↔
      (∀ key, key ∈ ms.map Prod.fst ↔ key ∈ ns.map Prod.fst) ∧
      ∀ key u v, ms.lookup key = some u → ns.lookup key = some v →
        Json.fieldStrictEq (some u) v = true)) ∧
    (a.sameCandidates a = true ∧ a.sameCandidates b = b.sameCandidates a) ∧
    (ConditionValue.one x).sameCandidates (.any [x]) = true ∧
    ∀ c, (ConditionValue.one x).sameCandidates c = (ConditionValue.any [x]).sameCandidates c ∧
      c.sameCandidates (.one x) = c.sameCandidates (.any [x]) := by
  have hself : (ConditionValue.one x).SameAs (.one x) :=
    .refl fun v hv => (List.mem_singleton.mp hv) ▸ hx
  refine ⟨⟨Json.strictEq_self hx, Json.strictEq_symm hx hy⟩, ?_,
    ⟨ConditionValue.sameCandidates_iff.mpr (.refl ha), ConditionValue.sameCandidates_symm ha hb⟩,
    ConditionValue.sameCandidates_iff.mpr hself, fun c => ⟨rfl, rfl⟩⟩
  rintro ms ns rfl rfl
  exact Json.strictEq_objects_iff (Json.nodup_keys hx.1) (Json.nodup_keys hy.1)

/-- Integers and doubles at different depths. The last two integers are different, but the double is equal to
both. -/
theorem strictEq_coherent_mixed :
    let one : Json := .number (.float ⟨0x3FF0000000000000⟩)
    let large : Json := .number (.float ⟨0x4340000000000000⟩)
    let x : Json := .object [("a", .array [.number (.signed 1), .object [("c", .null)]]),
      ("b", .number (.signed 9007199254740993))]
    let y : Json := .object [("a", .array [one, .object [("c", .null)]]), ("b", large)]
    let a : ConditionValue := .any [x, .number (.signed 9007199254740992)]
    let b : ConditionValue := .any [y, large]
    x.IsCanonical ∧ y.IsCanonical ∧ (∀ v ∈ a.candidates, v.IsCanonical) ∧
    (∀ v ∈ b.candidates, v.IsCanonical) ∧
    Json.fieldStrictEq (some x) y = true ∧ Json.fieldStrictEq (some y) x = true ∧
    a.sameCandidates b = true ∧ b.sameCandidates a = true := by
  intro one large x y a b
  have hone : Number.IsJson (.float ⟨0x3FF0000000000000⟩) := by decide
  have hlarge : Number.IsJson (.float ⟨0x4340000000000000⟩) := by decide
  have hkeys : ["a", "b"].Pairwise (· < ·) := by decide +kernel
  have hinner : (Json.object [("c", .null)]).IsCanonical := ⟨List.pairwise_singleton _ _, trivial, trivial⟩
  have hx : x.IsCanonical := ⟨hkeys, ⟨trivial, hinner, trivial⟩, trivial, trivial⟩
  have hy : y.IsCanonical := ⟨hkeys, ⟨hone, hinner, trivial⟩, hlarge, trivial⟩
  have ha : ∀ v ∈ a.candidates, v.IsCanonical := by
    intro v hv
    rcases List.mem_pair.mp hv with rfl | rfl
    · exact hx
    · exact trivial
  have hb : ∀ v ∈ b.candidates, v.IsCanonical := by
    intro v hv
    rcases List.mem_pair.mp hv with rfl | rfl
    · exact hy
    · exact hlarge
  have hequal : Json.fieldStrictEq (some x) y = true := by decide +kernel
  have hsame : a.sameCandidates b = true := by decide +kernel
  obtain ⟨⟨-, hsymm⟩, -, ⟨-, hcandidates⟩, -⟩ := strictEq_coherent hx hy ha hb
  exact ⟨hx, hy, ha, hb, hequal, hsymm ▸ hequal, hsame, hcandidates ▸ hsame⟩

end Sift
