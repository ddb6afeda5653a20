import FaceDecode.Tensor.Frame
import Mathlib.Data.List.FinRange

namespace FaceDecode

theorem vector_toList_eq {α : Type} {n : Nat} (xs : Vector α n) :
    xs.toList = (List.finRange n).map xs.get := by
  refine List.ext_getElem (by simp) fun i h h' ↦ ?_
  simp [Vector.get]

theorem flatMap_range_add (first blocks size : Nat) :
    ((List.range blocks).flatMap fun i ↦ (List.range size).map (first + size * i + ·)) =
      (List.range (size * blocks)).map (first + ·) := by
  induction blocks with
  | zero => rfl
  | succ blocks ih =>
    rw [List.range_succ (n := blocks), List.flatMap_append, List.flatMap_singleton, ih,
      Nat.mul_succ, List.range_add, List.map_append, List.map_map]
    simp only [Function.comp_def, Nat.add_assoc]

theorem flatMap_range_scales (factor : Nat) (count : Fin scaleCount → Nat) :
    ((List.finRange scaleCount).flatMap fun scale ↦ (List.range (factor * count scale)).map
      (factor * (((List.finRange scaleCount).map count).take scale).foldr (· + ·) 0 + ·)) =
        List.range (factor * ((List.finRange scaleCount).map count).foldr (· + ·) 0) := by
  have scales : List.finRange scaleCount = [0, 1, 2] := rfl
  rw [scales]
  simp [Nat.mul_add, List.range_add, Nat.add_assoc]

theorem getElem?_eq_some_of_numbered {α : Type} {l : List α} {number : α → Nat} {count : Nat}
    (numbered : l.map number = List.range count) (n : Nat) (a : α) :
    l[n]? = some a ↔ a ∈ l ∧ number a = n := by
  have at_number {n : Nat} {a : α} (h : l[n]? = some a) : number a = n := by
    have there : (l.map number)[n]? = some (number a) := by
      rw [List.getElem?_map, h, Option.map_some]
    rw [numbered, List.getElem?_eq_some_iff] at there
    obtain ⟨inside, same⟩ := there
    rw [← same, List.getElem_range]
  constructor
  · intro h
    exact ⟨List.mem_of_getElem? h, at_number h⟩
  · rintro ⟨h, rfl⟩
    obtain ⟨m, hm⟩ := List.getElem?_of_mem h
    rwa [at_number hm]

namespace Frame

/-- An anchor of a frame: its scale, its cell and its number in the cell. -/
structure Place where
  scale : Fin scaleCount
  cell : Nat
  anchor : Fin anchorsPerCell

def placesIn (scale : Fin scaleCount) (cell : Nat) : List Place :=
  (List.finRange anchorsPerCell).map (⟨scale, cell, ·⟩)

def placesOf (scale : Fin scaleCount) (cells : Nat) : List Place :=
  (List.range cells).flatMap (placesIn scale)

variable (f : Frame)

def places : List Place :=
  (List.finRange scaleCount).flatMap fun scale ↦ placesOf scale (f.scales.get scale).cells

def anchorCount : Nat := anchorsPerCell * f.cells.toList.foldr (· + ·) 0

def cellsBefore (scale : Fin scaleCount) : Nat :=
  (f.cells.toList.take scale).foldr (· + ·) 0

def number (p : Place) : Nat :=
  anchorsPerCell * f.cellsBefore p.scale + anchorsPerCell * p.cell + p.anchor

def Has (p : Place) : Prop := p.cell < (f.scales.get p.scale).cells

theorem mem_places (p : Place) : p ∈ f.places ↔ f.Has p := by
  obtain ⟨scale, cell, anchor⟩ := p
  simp only [places, placesOf, placesIn, List.mem_flatMap, List.mem_map, List.mem_range,
    List.mem_finRange, true_and, Place.mk.injEq, Has]
  constructor
  · rintro ⟨_, _, h, _, rfl, rfl, rfl⟩
    exact h
  · intro h
    exact ⟨scale, cell, h, anchor, rfl, rfl, rfl⟩

theorem placesIn_map_number (scale : Fin scaleCount) (cell : Nat) :
    (placesIn scale cell).map f.number =
      (List.range anchorsPerCell).map fun anchor ↦
        anchorsPerCell * f.cellsBefore scale + (anchorsPerCell * cell + anchor) := by
  rw [placesIn, List.map_map, ← List.map_coe_finRange_eq_range, List.map_map]
  refine List.map_congr_left fun anchor _ ↦ ?_
  exact Nat.add_assoc _ _ _

theorem placesOf_map_number (scale : Fin scaleCount) (cells : Nat) :
    (placesOf scale cells).map f.number =
      (List.range (anchorsPerCell * cells)).map (anchorsPerCell * f.cellsBefore scale + ·) := by
  have blocks := flatMap_range_add (anchorsPerCell * f.cellsBefore scale) cells anchorsPerCell
  rw [placesOf, List.map_flatMap, ← blocks]
  simp only [placesIn_map_number, Nat.add_assoc]

theorem cells_toList : f.cells.toList = (List.finRange scaleCount).map fun scale ↦
    (f.scales.get scale).cells := by
  refine List.ext_getElem (by simp [cells]) fun i h h' ↦ ?_
  simp [cells, Vector.get]

/-- The list of all anchors holds them in the order of their numbers, and leaves no number out. -/
theorem places_map_number : f.places.map f.number = List.range f.anchorCount := by
  simp only [places, List.map_flatMap, placesOf_map_number, cellsBefore, anchorCount, cells_toList]
  exact flatMap_range_scales anchorsPerCell fun scale ↦ (f.scales.get scale).cells

theorem length_places : f.places.length = f.anchorCount := by
  rw [← List.length_map f.number, places_map_number, List.length_range]

theorem places_getElem?_eq_some (n : Nat) (p : Place) :
    f.places[n]? = some p ↔ f.Has p ∧ f.number p = n := by
  rw [getElem?_eq_some_of_numbered f.places_map_number, mem_places]

variable {f} in
theorem Has.eq_of_number {p q : Place} (hp : f.Has p) (hq : f.Has q)
    (same : f.number p = f.number q) : p = q := by
  have here := (f.places_getElem?_eq_some _ p).2 ⟨hp, same⟩
  rw [(f.places_getElem?_eq_some _ q).2 ⟨hq, rfl⟩] at here
  exact (Option.some.inj here).symm

theorem places_pairwise : f.places.Pairwise fun p q ↦ f.number p < f.number q := by
  rw [← List.pairwise_map (f := f.number) (R := (· < ·)), places_map_number]
  exact List.pairwise_lt_range

variable {f}

theorem Has.number_lt {p : Place} (h : f.Has p) : f.number p < f.anchorCount := by
  rw [← List.mem_range, ← places_map_number]
  exact List.mem_map_of_mem ((f.mem_places p).2 h)

variable (f)

theorem number_of_drop {next : Nat} {p : Place} {ps : List Place}
    (h : f.places.drop next = p :: ps) :
    f.Has p ∧ f.number p = next ∧ f.places.drop (next + 1) = ps := by
  have here : f.places[next]? = some p := by
    rw [← Nat.add_zero next, ← List.getElem?_drop, h]
    rfl
  obtain ⟨has, number⟩ := (f.places_getElem?_eq_some next p).1 here
  refine ⟨has, number, ?_⟩
  rw [← List.tail_drop, h]
  rfl

end Frame

end FaceDecode
