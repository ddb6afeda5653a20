import FaceDecode.Overlay
import Mathlib.Data.List.Induction
import Mathlib.Data.Set.Card
import Mathlib.Logic.Function.Basic

namespace FaceDecode

/-- The area that each marker shows, if it is shown. -/
abbrev Display := UInt32 → Option DisplayArea

namespace Overlay

theorem toNat_marker {i : Nat} (h : i + 1 < UInt32.size) : (marker i).toNat = i + 1 := by
  rw [marker, UInt32.toNat_add, UInt32.toNat_ofNat_of_lt' (by omega)]
  exact Nat.mod_eq_of_lt h

theorem marker_inj {i j : Nat} (hi : i + 1 < UInt32.size) (hj : j + 1 < UInt32.size) :
    marker i = marker j ↔ i = j := by
  rw [← UInt32.toNat_inj, toNat_marker hi, toNat_marker hj]
  omega

theorem marker_ne_zero {i : Nat} (h : i + 1 < UInt32.size) : marker i ≠ 0 := by
  rw [Ne, ← UInt32.toNat_inj, toNat_marker h]
  exact Nat.succ_ne_zero i

theorem exists_marker {m : UInt32} (h : m ≠ 0) : ∃ i, i + 1 < UInt32.size ∧ m = marker i := by
  have pos : m.toNat ≠ 0 := mt (UInt32.toNat_inj (b := 0)).1 h
  have hm : m.toNat < UInt32.size := m.toNat_lt
  refine ⟨m.toNat - 1, by omega, ?_⟩
  rw [← UInt32.toNat_inj, toNat_marker] <;> omega

end Overlay

open Overlay

namespace Display

def markers (d : Display) : Set UInt32 := {m | (d m).isSome}

def obey (d : Display) : MarkerCommand → Option Display
  | .draw marker area => some (Function.update d marker (some area))
  | .clear marker => if (d marker).isSome then some (Function.update d marker none) else none

def replay (d : Display) (commands : List MarkerCommand) : Option Display := commands.foldlM obey d

def ofAreas (areas : List DisplayArea) : Display := fun m ↦
  if m = 0 then none else areas[m.toNat - 1]?

theorem ofAreas_zero (areas : List DisplayArea) : ofAreas areas 0 = none := if_pos rfl

theorem ofAreas_marker (areas : List DisplayArea) {i : Nat} (h : i + 1 < UInt32.size) :
    ofAreas areas (marker i) = areas[i]? := by
  rw [ofAreas, if_neg (marker_ne_zero h), toNat_marker h, Nat.add_sub_cancel]

theorem ext_marker {d d' : Display} (zero : d 0 = d' 0)
    (h : ∀ i, i + 1 < UInt32.size → d (marker i) = d' (marker i)) : d = d' := by
  funext m
  by_cases hm : m = 0
  · rw [hm, zero]
  · obtain ⟨i, hi, rfl⟩ := exists_marker hm
    exact h i hi

theorem markers_ofAreas {areas : List DisplayArea} (h : areas.length < UInt32.size) :
    (ofAreas areas).markers = (Finset.range areas.length).image marker := by
  ext m
  simp only [markers, Set.mem_ofPred_eq, Finset.coe_image, Finset.coe_range, Set.mem_image,
    Set.mem_Iio]
  constructor
  · intro shown
    have hm : m ≠ 0 := by
      rintro rfl
      cases shown
    obtain ⟨i, hi, rfl⟩ := exists_marker hm
    rw [ofAreas_marker areas hi, isSome_getElem?] at shown
    exact ⟨i, shown, rfl⟩
  · rintro ⟨i, hi, rfl⟩
    rw [ofAreas_marker areas (by omega), isSome_getElem?]
    exact hi

theorem encard_markers {areas : List DisplayArea} (h : areas.length < UInt32.size) :
    (ofAreas areas).markers.encard = areas.length := by
  have injective : Set.InjOn marker (Finset.range areas.length) := by
    intro i hi j hj same
    rw [Finset.coe_range, Set.mem_Iio] at hi hj
    exact (marker_inj (by omega) (by omega)).1 same
  rw [markers_ofAreas h, Set.encard_coe_eq_coe_finsetCard, Finset.card_image_of_injOn injective,
    Finset.card_range]

theorem eq_ofAreas {d : Display} (h : d.markers = {1}) : ∃ area, d = ofAreas [area] := by
  have shown (m : UInt32) : (d m).isSome ↔ m = marker 0 := by
    have hm : m ∈ d.markers ↔ m ∈ ({1} : Set UInt32) := by rw [h]
    exact hm
  have absent {m : UInt32} (hm : m ≠ marker 0) : d m = none :=
    Option.not_isSome_iff_eq_none.1 (mt (shown m).1 hm)
  obtain ⟨area, there⟩ := Option.isSome_iff_exists.1 ((shown (marker 0)).2 rfl)
  refine ⟨area, ext_marker (absent (marker_ne_zero (by decide)).symm) fun i hi ↦ ?_⟩
  rw [ofAreas_marker _ hi]
  cases i with
  | zero => exact there
  | succ i => exact absent (mt (marker_inj hi (by decide)).1 i.succ_ne_zero)

theorem replay_append (d : Display) (cs cs' : List MarkerCommand) :
    d.replay (cs ++ cs') = (d.replay cs).bind (·.replay cs') :=
  List.foldlM_append

/-- Clearing markers that are all shown takes them away, whatever their order. -/
theorem replay_clear {d : Display} {ms : List UInt32} (distinct : ms.Nodup)
    (shown : ∀ m ∈ ms, (d m).isSome) :
    d.replay (ms.map .clear) = some fun m ↦ if m ∈ ms then none else d m := by
  induction ms generalizing d with
  | nil => simp [replay]
  | cons m ms ih =>
    rw [List.nodup_cons] at distinct
    have rest : ∀ k ∈ ms, (Function.update d m none k).isSome := by
      intro k hk
      have hkm : k ≠ m := fun h ↦ distinct.1 (h ▸ hk)
      rw [Function.update_of_ne hkm]
      exact shown k (List.mem_cons_of_mem m hk)
    have first : d.obey (.clear m) = some (Function.update d m none) :=
      if_pos (shown m List.mem_cons_self)
    rw [List.map_cons, replay, List.foldlM_cons, first]
    refine (ih distinct.2 rest).trans (congrArg some (funext fun k ↦ ?_))
    by_cases hkm : k = m <;> simp [hkm]

end Display

namespace Overlay

open Display

def stale (first last : Nat) : List UInt32 := (List.range' first (last - first)).map marker

theorem clears_eq (first last : Nat) : clears first last = (stale first last).map .clear := by
  rw [clears, stale, List.map_map]
  rfl

theorem marker_mem_stale {first last i : Nat} (h : last < UInt32.size) (hi : i + 1 < UInt32.size) :
    marker i ∈ stale first last ↔ first ≤ i ∧ i < last := by
  simp only [stale, List.mem_map, List.mem_range'_1]
  constructor
  · rintro ⟨j, hj, same⟩
    rw [marker_inj (by omega) hi] at same
    omega
  · intro inside
    exact ⟨i, by omega, rfl⟩

theorem stale_nodup {first last : Nat} (h : last < UInt32.size) : (stale first last).Nodup := by
  refine List.Nodup.map_on ?_ List.nodup_range'
  intro i hi j hj same
  rw [List.mem_range'_1] at hi hj
  exact (marker_inj (by omega) (by omega)).1 same

theorem exists_of_mem_stale {first last : Nat} {m : UInt32} (hm : m ∈ stale first last) :
    ∃ i, first ≤ i ∧ i < last ∧ m = marker i := by
  obtain ⟨i, hi, rfl⟩ := List.mem_map.1 hm
  rw [List.mem_range'_1] at hi
  exact ⟨i, by omega, by omega, rfl⟩

variable (o : Overlay) {boxes : List PixelBox}

/-- Drawing a box for each marker from one on leaves the markers above them as they are. -/
theorem replay_draws (counted : boxes.length < UInt32.size) (d : Display) :
    d.replay (boxes.mapIdx fun i b ↦ .draw (marker i) (o.area b)) =
      some fun m ↦ (ofAreas (boxes.map o.area) m).or (d m) := by
  -- From the back, since the last box is drawn on what all others have left.
  induction boxes using List.reverseRecOn with
  | nil => simp [replay, ofAreas]
  | append_singleton boxes b ih =>
    rw [List.length_append, List.length_singleton] at counted
    rw [List.mapIdx_append, replay_append, ih (by omega), Option.bind_some]
    refine congrArg some (ext_marker ?_ fun i hi ↦ ?_)
    · have zero := (marker_ne_zero counted).symm
      simp [ofAreas_zero, Function.update_of_ne zero]
    · rw [ofAreas_marker _ hi]
      by_cases last : i = boxes.length
      · simp [last, Function.update_self]
      · have other : marker i ≠ marker boxes.length := mt (marker_inj hi counted).1 last
        have kept : (boxes ++ [b])[i]? = boxes[i]? := by grind
        simp [Function.update_of_ne other, ofAreas_marker _ hi, kept, -List.map_append]

/-- An update brings the display from any areas to those of the boxes. -/
theorem replay_update {areas : List DisplayArea} (same : areas.length = o.shown)
    (held : o.shown < UInt32.size) (counted : boxes.length < UInt32.size) :
    (ofAreas areas).replay (o.update boxes).1 = some (ofAreas (boxes.map o.area)) := by
  have shown : ∀ m ∈ stale boxes.length o.shown, (ofAreas areas m).isSome := by
    intro m hm
    obtain ⟨i, -, hi, rfl⟩ := exists_of_mem_stale hm
    rw [ofAreas_marker areas (by omega), isSome_getElem?]
    exact same ▸ hi
  rw [update, clears_eq, replay_append, replay_clear (stale_nodup held) shown, Option.bind_some,
    replay_draws o counted]
  refine congrArg some (ext_marker ?_ fun i hi ↦ ?_)
  · simp [ofAreas_zero]
  · simp only [ofAreas_marker _ hi, marker_mem_stale held hi]
    grind

theorem not_clear_of_draw (held : o.shown < UInt32.size) (counted : boxes.length < UInt32.size)
    {m : UInt32} {area : DisplayArea} (drawn : .draw m area ∈ (o.update boxes).1) :
    .clear m ∉ (o.update boxes).1 := by
  have below : ∃ i, i < boxes.length ∧ m = marker i := by
    simp only [update, clears_eq, List.mem_append, List.mem_map, reduceCtorEq, and_false,
      exists_false, false_or, List.mem_mapIdx, MarkerCommand.draw.injEq] at drawn
    obtain ⟨i, hi, rfl, -⟩ := drawn
    exact ⟨i, hi, rfl⟩
  obtain ⟨i, hi, rfl⟩ := below
  intro cleared
  have above : marker i ∈ stale boxes.length o.shown := by
    simpa [update, clears_eq] using cleared
  rw [marker_mem_stale held (by omega)] at above
  omega

end Overlay

end FaceDecode
