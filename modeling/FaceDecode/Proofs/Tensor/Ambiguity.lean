import FaceDecode.Proofs.Tensor.Building
import FaceDecode.Proofs.Tensor.Faults

namespace FaceDecode.Frame

variable {cells : Vector Nat scaleCount}

theorem length_nodup_iff (counted : ∀ n ∈ lengths cells, n < UInt64.size) :
    (Slot.all.map (Slot.length cells)).Nodup ↔
      Function.Injective cells.get ∧ ∀ s t, cells.get s ≠ 2 * cells.get t ∧
        cells.get s ≠ 5 * cells.get t ∧ 2 * cells.get s ≠ 5 * cells.get t := by
  rw [List.nodup_map_iff_inj_on Slot.all_nodup]
  constructor
  · intro told
    have apart (a b : Slot) (same : a.kind.channels * cells.get a.scale =
        b.kind.channels * cells.get b.scale) : a = b := by
      rw [← slot_length_eq counted, ← slot_length_eq counted] at same
      exact told a (Slot.mem_all a) b (Slot.mem_all b) same
    refine ⟨?_, ?_⟩
    · intro s t same
      exact congrArg Slot.scale (apart ⟨s, .confidence⟩ ⟨t, .confidence⟩ (congrArg _ same))
    · intro s t
      refine ⟨?_, ?_, ?_⟩
      · intro twice
        have same : 4 * cells.get s = 8 * cells.get t := by omega
        cases apart ⟨s, .confidence⟩ ⟨t, .location⟩ same
      · intro fivefold
        have same : 4 * cells.get s = 20 * cells.get t := by omega
        cases apart ⟨s, .confidence⟩ ⟨t, .landmarks⟩ same
      · intro halves
        have same : 8 * cells.get s = 20 * cells.get t := by omega
        cases apart ⟨s, .location⟩ ⟨t, .landmarks⟩ same
  · rintro ⟨inj, ratios⟩ ⟨s, k⟩ - ⟨t, k'⟩ - same
    rw [slot_length_eq counted, slot_length_eq counted] at same
    obtain ⟨twice, fivefold, halves⟩ := ratios s t
    obtain ⟨twice', fivefold', halves'⟩ := ratios t s
    -- A cell has 4, 8 or 20 values, so lengths of different kinds are equal at these ratios only.
    cases k <;> cases k' <;>
      simp only [TensorKind.channels, TensorKind.width, anchorsPerCell] at same
    case confidence.confidence | location.location | landmarks.landmarks =>
      rw [inj (by omega : cells.get s = cells.get t)]
    all_goals omega

variable {f : Frame} {tensors : List (Array Float32)}

/-- Nine tensors that are placed without a fault fill all slots, so every slot is the first of its
length. -/
theorem nodup_of_flawless (flawless : Flawless cells tensors)
    (nine : tensors.length = Slot.all.length) : (Slot.all.map (Slot.length cells)).Nodup := by
  obtain ⟨filling, placed⟩ := exists_placed_iff.2 flawless
  obtain ⟨sound, order⟩ := placeAll_eq_ok.1 placed
  have full : Slot.all ⊆ filling.map Prod.fst := by
    have inside : filling.map Prod.fst ⊆ Slot.all := fun slot _ ↦ Slot.mem_all slot
    have size := congrArg List.length order
    rw [List.length_map, List.length_reverse, nine] at size
    have sub := List.subperm_of_subset sound.nodup inside
    exact (sub.perm_of_length_le (by rw [List.length_map, size])).symm.subset
  refine Slot.ofLength?_length_iff.1 ?_
  intro slot
  obtain ⟨⟨_, values⟩, there, rfl⟩ := List.mem_map.1 (full (Slot.mem_all slot))
  have leads := sound.placed _ there
  rwa [Slot.length_of_ofLength? leads]

section Shuffled

variable (shuffled : tensors.Perm (Slot.all.map f.contents))
include shuffled

theorem exists_duplicate (alike : ¬ (Slot.all.map (Slot.length f.cells)).Nodup) :
    ∃ slot : Slot, recognize f.cells tensors = .error (.duplicate slot.scale slot.kind) := by
  cases h : recognize f.cells tensors with
  | ok g => exact absurd (recognize_eq_ok_iff.1 h).2.1 alike
  | error e =>
    rcases recognize_eq_error_iff.1 h with ⟨earlier, values, later, split, -, fault⟩ | ⟨flawless, -⟩
    · cases fault with
      | unrecognized unknown =>
        have listed : values ∈ tensors := by simp [split]
        obtain ⟨slot, -, rfl⟩ := List.mem_map.1 (shuffled.mem_iff.1 listed)
        exact absurd (size_contents rfl slot).symm (unknown slot)
      | duplicate => exact ⟨_, rfl⟩
    · have nine : tensors.length = Slot.all.length := by rw [shuffled.length_eq, List.length_map]
      exact absurd (nodup_of_flawless flawless nine) alike

/-- A frame is recognized from its tensors in any order just where their lengths are all different. If
not, its tensors are refused in every order. Unless a length wraps, all are different where the
scales differ in their cells and none has two, five or two and a half times those of another. -/
theorem recognize_shuffled :
    (recognize f.cells tensors = .ok f ↔ (Slot.all.map (Slot.length f.cells)).Nodup) ∧
    (¬ (Slot.all.map (Slot.length f.cells)).Nodup →
      ∃ slot : Slot, recognize f.cells tensors = .error (.duplicate slot.scale slot.kind)) ∧
    ((∀ n ∈ lengths f.cells, n < UInt64.size) →
      ((Slot.all.map (Slot.length f.cells)).Nodup ↔
        Function.Injective f.cells.get ∧ ∀ s t, f.cells.get s ≠ 2 * f.cells.get t ∧
          f.cells.get s ≠ 5 * f.cells.get t ∧ 2 * f.cells.get s ≠ 5 * f.cells.get t)) := by
  refine ⟨⟨?_, ?_⟩, exists_duplicate shuffled, length_nodup_iff⟩
  · intro found
    exact (recognize_eq_ok_iff.1 found).2.1
  · intro told
    exact recognize_eq_ok_iff.2 ⟨rfl, told, shuffled⟩

end Shuffled

theorem recognize_shuffled_reversed :
    (Slot.all.map (zeros #v[3, 7, 11]).contents).reverse.Perm
        (Slot.all.map (zeros #v[3, 7, 11]).contents) ∧
      recognize #v[3, 7, 11] (Slot.all.map (zeros #v[3, 7, 11]).contents).reverse =
        .ok (zeros #v[3, 7, 11]) := by
  have shuffled := List.reverse_perm (Slot.all.map (zeros #v[3, 7, 11]).contents)
  obtain ⟨told, -⟩ := recognize_shuffled shuffled
  rw [cells_zeros] at told
  exact ⟨shuffled, told.2 (by decide)⟩

/-- The first scale has twice as many cells as the second: eight confidences of one, eight shifts of
the other. -/
theorem recognize_twofold :
    (∀ s, 0 < (zeros #v[2, 1, 3]).cells.get s) ∧ Function.Injective (zeros #v[2, 1, 3]).cells.get ∧
      ∃ slot : Slot, recognize (zeros #v[2, 1, 3]).cells
        (Slot.all.map (zeros #v[2, 1, 3]).contents) = .error (.duplicate slot.scale slot.kind) := by
  have alike : ¬ (Slot.all.map (Slot.length (zeros #v[2, 1, 3]).cells)).Nodup := by
    rw [cells_zeros]
    decide
  refine ⟨?_, ?_, exists_duplicate (.refl _) alike⟩
  · rw [cells_zeros]
    decide
  · have different : ∀ s t, #v[2, 1, 3].get s = #v[2, 1, 3].get t → s = t := by decide
    rw [cells_zeros]
    exact different

end FaceDecode.Frame
