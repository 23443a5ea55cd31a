import Mathlib.Data.List.Basic
import Mathlib.Data.String.Basic
import Mathlib.Order.Defs.LinearOrder
import Sift.Json.Codec
import Sift.Proofs.Json.Alike

/-! # Canonical values

A value fits a depth if its numbers are numbers of JSON and no more than that many arrays and objects are
around each other. A value that fits becomes canonical by sorting members, and a canonical value stays as it
is, so that a codec has nothing but canonical values to give.
-/
namespace Sift.Json

/-- The numbers are numbers of JSON, and arrays and objects are nested up to a depth. -/
inductive Fits : Nat → Json → Prop
  | null (depth : Nat) : Fits depth .null
  | bool (depth : Nat) (b : Bool) : Fits depth (.bool b)
  | number (depth : Nat) {n : Number} (h : n.IsJson) : Fits depth (.number n)
  | string (depth : Nat) (s : String) : Fits depth (.string s)
  | array {depth : Nat} {xs : List Json} (h : ∀ x ∈ xs, Fits depth x) : Fits (depth + 1) (.array xs)
  | object {depth : Nat} {ms : List (String × Json)} (h : ∀ m ∈ ms, Fits depth m.2) :
    Fits (depth + 1) (.object ms)

/-! ## Sorting members -/

section
variable {key : String} {value : Json} {ms : List (String × Json)}

theorem mem_insertMember {m : String × Json} (h : m ∈ insertMember key value ms) :
    m = (key, value) ∨ m ∈ ms := by
  induction ms with
  | nil => exact .inl (List.mem_singleton.mp h)
  | cons e ms ih =>
    obtain ⟨k, v⟩ := e
    simp only [insertMember] at h
    split at h
    · exact List.mem_cons.mp h
    · split at h
      · exact (List.mem_cons.mp h).imp_right (List.mem_cons_of_mem _)
      · rcases List.mem_cons.mp h with rfl | h
        · exact .inr List.mem_cons_self
        · exact (ih h).imp_right (List.mem_cons_of_mem _)

theorem increasing_insertMember (h : (ms.map Prod.fst).Pairwise (· < ·)) :
    ((insertMember key value ms).map Prod.fst).Pairwise (· < ·) := by
  induction ms with
  | nil => exact List.pairwise_singleton _ _
  | cons e ms ih =>
    obtain ⟨k, v⟩ := e
    obtain ⟨hk, hrest⟩ := List.pairwise_cons.mp h
    simp only [insertMember]
    split
    · next hlt =>
      refine List.pairwise_cons.mpr ⟨fun l hl => ?_, h⟩
      rcases List.mem_cons.mp hl with rfl | hl
      · exact hlt
      · exact lt_trans hlt (hk l hl)
    · next hlt =>
      split
      · next heq => exact heq ▸ h
      · next hne =>
        refine List.pairwise_cons.mpr ⟨fun l hl => ?_, ih hrest⟩
        obtain ⟨m, hm, rfl⟩ := List.mem_map.mp hl
        rcases mem_insertMember hm with rfl | hm
        · exact lt_of_le_of_ne (not_lt.mp hlt) (Ne.symm hne)
        · exact hk m.1 (List.mem_map_of_mem hm)

/-- A key above all others goes to the end. -/
theorem insertMember_of_forall_lt (h : ∀ m ∈ ms, m.1 < key) :
    insertMember key value ms = ms ++ [(key, value)] := by
  induction ms with
  | nil => rfl
  | cons e ms ih =>
    obtain ⟨k, v⟩ := e
    have hk : k < key := h (k, v) List.mem_cons_self
    rw [insertMember, if_neg (not_lt_of_gt hk), if_neg (ne_of_gt hk),
      ih fun m hm => h m (List.mem_cons_of_mem _ hm)]
    rfl

theorem mem_sortMembers {m : String × Json} (h : m ∈ sortMembers ms) : m ∈ ms := by
  refine List.foldlRecOn (motive := fun sorted => m ∈ sorted → m ∈ ms) ms _
    (fun h => absurd h List.not_mem_nil) (fun sorted ih e he hm => ?_) h
  rcases mem_insertMember hm with rfl | hm
  · exact he
  · exact ih hm

theorem increasing_sortMembers (ms : List (String × Json)) :
    ((sortMembers ms).map Prod.fst).Pairwise (· < ·) :=
  List.foldlRecOn (motive := fun sorted : List (String × Json) => (sorted.map Prod.fst).Pairwise (· < ·)) ms _
    List.Pairwise.nil fun _ ih _ _ => increasing_insertMember ih

/-- Members with increasing keys are sorted already. -/
theorem sortMembers_eq_self (h : (ms.map Prod.fst).Pairwise (· < ·)) : sortMembers ms = ms := by
  induction ms using List.reverseRecOn with
  | nil => rfl
  | append_singleton ms e ih =>
    rw [List.map_append, List.pairwise_append] at h
    obtain ⟨hms, -, hlast⟩ := h
    have hbelow : ∀ m ∈ ms, m.1 < e.1 := fun m hm =>
      hlast m.1 (List.mem_map_of_mem hm) e.1 (List.mem_singleton_self _)
    have hsorted := ih hms
    unfold sortMembers at hsorted ⊢
    rw [List.foldl_append, hsorted]
    exact insertMember_of_forall_lt hbelow

end

/-! ## Canonical values -/

theorem canonicalItems_eq_map (xs : List Json) : canonicalItems xs = xs.map canonical := by
  induction xs with
  | nil => rfl
  | cons x xs ih => rw [canonicalItems, ih, List.map_cons]

theorem canonicalMembers_eq_map (ms : List (String × Json)) :
    canonicalMembers ms = ms.map fun m => (m.1, canonical m.2) := by
  induction ms with
  | nil => rfl
  | cons m ms ih => rw [canonicalMembers, ih, List.map_cons]

theorem itemsCanonical_iff {xs : List Json} : ItemsCanonical xs ↔ ∀ x ∈ xs, x.IsCanonical := by
  refine ⟨isCanonical_of_mem_items, fun h => ?_⟩
  induction xs with
  | nil => exact trivial
  | cons x xs ih => exact ⟨h x List.mem_cons_self, ih fun y hy => h y (List.mem_cons_of_mem x hy)⟩

theorem membersCanonical_iff {ms : List (String × Json)} :
    MembersCanonical ms ↔ ∀ m ∈ ms, m.2.IsCanonical := by
  refine ⟨isCanonical_of_mem_members, fun h => ?_⟩
  induction ms with
  | nil => exact trivial
  | cons m ms ih => exact ⟨h m List.mem_cons_self, ih fun y hy => h y (List.mem_cons_of_mem m hy)⟩

theorem Fits.canonical {depth : Nat} {v : Json} (h : Fits depth v) : Fits depth v.canonical := by
  induction h with
  | null depth => exact .null depth
  | bool depth b => exact .bool depth b
  | number depth h => exact .number depth h
  | string depth s => exact .string depth s
  | array _ ih =>
    rw [Json.canonical, canonicalItems_eq_map]
    refine .array fun x hx => ?_
    obtain ⟨y, hy, rfl⟩ := List.mem_map.mp hx
    exact ih y hy
  | object _ ih =>
    rw [Json.canonical, canonicalMembers_eq_map]
    refine .object fun m hm => ?_
    obtain ⟨e, he, rfl⟩ := List.mem_map.mp (mem_sortMembers hm)
    exact ih e he

/-- Sorting the members makes a value canonical whose numbers are those of JSON. -/
theorem Fits.isCanonical {depth : Nat} {v : Json} (h : Fits depth v) : v.canonical.IsCanonical := by
  induction h with
  | null | bool | string => trivial
  | number depth h => exact h
  | array _ ih =>
    rw [Json.canonical, canonicalItems_eq_map]
    refine itemsCanonical_iff.mpr fun x hx => ?_
    obtain ⟨y, hy, rfl⟩ := List.mem_map.mp hx
    exact ih y hy
  | object _ ih =>
    rw [Json.canonical, canonicalMembers_eq_map]
    refine ⟨increasing_sortMembers _, membersCanonical_iff.mpr fun m hm => ?_⟩
    obtain ⟨e, he, rfl⟩ := List.mem_map.mp (mem_sortMembers hm)
    exact ih e he

theorem canonical_array_eq_self {xs : List Json} (h : ∀ x ∈ xs, x.canonical = x) :
    (Json.array xs).canonical = .array xs := by
  rw [canonical, canonicalItems_eq_map, List.map_congr_left h, List.map_id']

theorem canonical_object_eq_self {ms : List (String × Json)} (hkeys : (ms.map Prod.fst).Pairwise (· < ·))
    (h : ∀ m ∈ ms, m.2.canonical = m.2) : (Json.object ms).canonical = .object ms := by
  have hsame : (ms.map fun m => (m.1, canonical m.2)) = ms := by
    rw [List.map_congr_left fun m hm => congrArg (Prod.mk m.1) (h m hm), List.map_id']
  rw [canonical, canonicalMembers_eq_map, hsame, sortMembers_eq_self hkeys]

theorem canonical_eq_self {v : Json} (h : v.IsCanonical) : v.canonical = v := by
  induction v using inductionOn with
  | leaf v hv => cases v <;> first | rfl | cases hv
  | array xs ih => exact canonical_array_eq_self fun x hx => ih x hx (itemsCanonical_iff.mp h x hx)
  | object ms ih =>
    obtain ⟨hkeys, hms⟩ := h
    exact canonical_object_eq_self hkeys fun m hm => ih m hm (membersCanonical_iff.mp hms m hm)

/-- Sorting the members a second time changes nothing. -/
theorem canonical_canonical (v : Json) : v.canonical.canonical = v.canonical := by
  induction v using inductionOn with
  | leaf v hv => cases v <;> first | rfl | cases hv
  | array xs ih =>
    rw [canonical, canonicalItems_eq_map]
    exact canonical_array_eq_self (List.forall_mem_map.mpr ih)
  | object ms ih =>
    rw [canonical, canonicalMembers_eq_map]
    refine canonical_object_eq_self (increasing_sortMembers _) fun m hm => ?_
    obtain ⟨e, he, rfl⟩ := List.mem_map.mp (mem_sortMembers hm)
    exact ih e he

end Json

/-- What is read as a value is canonical. -/
theorem JsonCodec.canonical_of_parse {J : JsonCodec} {text : String} {v : Json} (h : J.parse text = .ok v) :
    v.canonical = v := by
  unfold JsonCodec.parse at h
  cases hr : J.read text with
  | error reason =>
    rw [hr] at h
    cases h
  | ok w =>
    rw [hr] at h
    cases h
    exact w.canonical_canonical

end Sift
