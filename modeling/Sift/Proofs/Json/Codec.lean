import Sift.Libraries
import Sift.Proofs.Json.ReadBack

/-! # What the program reads

What is read from a text fits the depth that the reader allows. So the program reads back every list of
elements of a value that it has read from the text that it prints of the list.
-/
namespace Sift.Json

theorem isJson_of_ofInteger? {negative : Bool} {m : Nat} {n : Number} (h : ofInteger? negative m = some n) :
    n.IsJson := by
  obtain ⟨-, h⟩ := Option.ite_none_left_eq_some.mp h
  exact (Number.ofInt?_eq_some_iff.mp h).2

theorem isJson_of_finite? {x : Binary64} {n : Number} (h : finite? x = some n) : n.IsJson := by
  obtain ⟨hx, hn⟩ := Option.ite_none_right_eq_some.mp h
  cases hn
  exact hx

theorem isJson_of_number? {cs rest : List Char} {n : Number} (h : number? cs = some (n, rest)) : n.IsJson := by
  unfold number? at h
  split at h
  obtain ⟨⟨whole, afterWhole⟩, -, h⟩ := Option.bind_eq_some_iff.mp h
  obtain ⟨⟨fraction, afterFraction⟩, -, h⟩ := Option.bind_eq_some_iff.mp h
  obtain ⟨⟨e, after⟩, -, h⟩ := Option.bind_eq_some_iff.mp h
  obtain ⟨m, hm, h⟩ := Option.bind_eq_some_iff.mp h
  obtain ⟨rfl, rfl⟩ := Prod.mk.inj (Option.some.inj h)
  rcases Option.or_eq_some_iff.mp hm with hm | ⟨-, hm⟩
  · obtain ⟨-, hm⟩ := Option.ite_none_left_eq_some.mp hm
    exact isJson_of_ofInteger? hm
  · exact isJson_of_finite? hm

section
variable {α : Type} {P : α → Prop} {close : Char} {item : List Char → Option (α × List Char)}

theorem forall_of_items? (hitem : ∀ {cs x rest}, item cs = some (x, rest) → P x) {n : Nat} {cs rest : List Char}
    {xs : List α} (h : items? close item n cs = some (xs, rest)) : ∀ x ∈ xs, P x := by
  induction n generalizing cs xs rest with
  | zero => cases h
  | succ n ih =>
    obtain ⟨⟨x, afterItem⟩, hx, h⟩ := Option.bind_eq_some_iff.mp h
    dsimp only at h
    split at h
    · obtain ⟨⟨ys, after⟩, hys, h⟩ := Option.map_eq_some_iff.mp h
      obtain ⟨rfl, rfl⟩ := Prod.mk.inj h
      exact List.forall_mem_cons.mpr ⟨hitem hx, ih hys⟩
    · obtain ⟨-, h⟩ := Option.ite_none_right_eq_some.mp h
      obtain ⟨rfl, rfl⟩ := Prod.mk.inj (Option.some.inj h)
      exact List.forall_mem_singleton.mpr (hitem hx)
    · cases h

theorem forall_of_sequence? (hitem : ∀ {cs x rest}, item cs = some (x, rest) → P x) {cs rest : List Char}
    {xs : List α} (h : sequence? close item cs = some (xs, rest)) : ∀ x ∈ xs, P x := by
  unfold sequence? at h
  split at h
  · split at h
    · obtain ⟨rfl, rfl⟩ := Prod.mk.inj (Option.some.inj h)
      exact List.forall_mem_nil _
    · exact forall_of_items? hitem h
  · cases h

end

theorem exists_of_keyed? {value : List Char → Option (Json × List Char)} {cs rest : List Char}
    {m : String × Json} (h : keyed? value cs = some (m, rest)) :
    ∃ cs' rest', value cs' = some (m.2, rest') := by
  unfold keyed? at h
  split at h
  · obtain ⟨⟨key, afterKey⟩, -, h⟩ := Option.bind_eq_some_iff.mp h
    dsimp only at h
    split at h
    · obtain ⟨⟨v, after⟩, hv, h⟩ := Option.bind_eq_some_iff.mp h
      obtain ⟨rfl, rfl⟩ := Prod.mk.inj (Option.some.inj h)
      exact ⟨_, _, hv⟩
    · cases h
  · cases h

/-- What is read with a depth fits this depth. -/
theorem fits_of_value? {depth : Nat} {cs rest : List Char} {v : Json}
    (h : value? depth cs = some (v, rest)) : Fits depth v := by
  induction depth using Nat.strongRecOn generalizing cs v rest with
  | ind depth ih =>
    unfold value? at h
    split at h
    · obtain ⟨p, -, hp⟩ := Option.map_eq_some_iff.mp h
      cases hp
      exact .string depth _
    · cases depth with
      | zero => cases h
      | succ depth =>
        obtain ⟨p, hxs, hp⟩ := Option.map_eq_some_iff.mp h
        cases hp
        exact .array (forall_of_sequence? (fun hx => ih depth (Nat.lt_succ_self depth) hx) hxs)
    · cases depth with
      | zero => cases h
      | succ depth =>
        obtain ⟨p, hms, hp⟩ := Option.map_eq_some_iff.mp h
        cases hp
        refine .object (forall_of_sequence? (P := fun m => Fits depth m.2) (fun hm => ?_) hms)
        obtain ⟨cs', rest', hv⟩ := exists_of_keyed? hm
        exact ih depth (Nat.lt_succ_self depth) hv
    · obtain ⟨p, -, hp⟩ := Option.map_eq_some_iff.mp h
      cases hp
      exact .null depth
    · obtain ⟨p, -, hp⟩ := Option.map_eq_some_iff.mp h
      cases hp
      exact .bool depth true
    · obtain ⟨p, -, hp⟩ := Option.map_eq_some_iff.mp h
      cases hp
      exact .bool depth false
    · obtain ⟨p, hn, hp⟩ := Option.map_eq_some_iff.mp h
      cases hp
      exact .number depth (isJson_of_number? hn)

theorem fits_of_read? {text : String} {v : Json} (h : read? text = some v) : Fits maxDepth v := by
  unfold read? at h
  split at h
  · next w rest hw =>
    obtain ⟨-, h⟩ := Option.ite_none_right_eq_some.mp h
    exact Option.some.inj h ▸ fits_of_value? hw
  · cases h

/-- What a text denotes is canonical and fits the depth of the reader. -/
theorem fits_of_codec_parse {text : String} {v : Json} (h : codec.parse text = .ok v) :
    Fits maxDepth v ∧ v.IsCanonical := by
  unfold JsonCodec.parse codec at h
  dsimp only at h
  cases hr : read? text with
  | none =>
    rw [hr] at h
    cases h
  | some w =>
    rw [hr] at h
    cases h
    exact ⟨(fits_of_read? hr).canonical, (fits_of_read? hr).isCanonical⟩

theorem codec_readsBack_of_sublist {text : String} {v : Json} (h : codec.parse text = .ok v)
    {xs : List Json} (hxs : xs.Sublist v.items) : codec.ReadsBack (.array xs) := by
  obtain ⟨hfits, hv⟩ := fits_of_codec_parse h
  have hitems : ∀ x ∈ v.items, Fits (maxDepth - 1) x ∧ x.IsCanonical := by
    cases hfits with
    | array hys => exact fun x hx => ⟨hys x hx, itemsCanonical_iff.mp hv x hx⟩
    | _ => exact List.forall_mem_nil _
  refine codec_readsBack (.array fun x hx => (hitems x (hxs.mem hx)).1) ?_
  exact canonical_array_eq_self fun x hx => canonical_eq_self (hitems x (hxs.mem hx)).2

end Sift.Json
