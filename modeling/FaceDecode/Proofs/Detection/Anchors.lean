import FaceDecode.Detection.Anchors
import FaceDecode.Proofs.Tensor.Places

namespace FaceDecode

theorem flatMap_range_mul {α : Type} (rows columns : Nat) (f : Nat → Nat → List α) :
    ((List.range (columns * rows)).flatMap fun n ↦ f (n / columns) (n % columns)) =
      (List.range rows).flatMap fun i ↦ (List.range columns).flatMap (f i) := by
  have blocks := flatMap_range_add 0 rows columns
  simp only [Nat.zero_add, List.map_id'] at blocks
  rw [← blocks, List.flatMap_assoc]
  refine List.flatMap_congr fun i _ ↦ ?_
  rw [List.flatMap_map]
  refine List.flatMap_congr fun j hj ↦ ?_
  have inside : j < columns := List.mem_range.1 hj
  rw [Nat.mul_add_div (by omega), Nat.div_eq_of_lt inside, Nat.add_zero, Nat.mul_add_mod,
    Nat.mod_eq_of_lt inside]

namespace AnchorTable

/-- An anchor of some grids: its scale, its row and column there and its number in the cell. -/
structure Site where
  scale : Fin scaleCount
  row : Nat
  column : Nat
  anchor : Fin anchorsPerCell

variable (width height : Float32) (grids : Vector Grid scaleCount)

def cellsBefore (scale : Fin scaleCount) : Nat :=
  ((grids.toList.take scale).map (·.cells)).foldr (· + ·) 0

namespace Site

variable (p : Site)

def Within : Prop := p.row < (grids.get p.scale).rows ∧ p.column < (grids.get p.scale).columns

instance : Decidable (p.Within grids) := inferInstanceAs (Decidable (_ ∧ _))

def number : Nat :=
  anchorsPerCell * cellsBefore grids p.scale +
    anchorsPerCell * (p.row * (grids.get p.scale).columns + p.column) + p.anchor

def box : CenterBox :=
  let g := grids.get p.scale
  let side := g.sides.get p.anchor
  { cx := g.center p.column width, cy := g.center p.row height
    w := side / width, h := side / height }

end Site

def sitesOf (scale : Fin scaleCount) : List Site :=
  (List.range (grids.get scale).rows).flatMap fun row ↦
    (List.range (grids.get scale).columns).flatMap fun column ↦
      (List.finRange anchorsPerCell).map (⟨scale, row, column, ·⟩)

def sites : List Site := (List.finRange scaleCount).flatMap (sitesOf grids)

theorem mem_sites (p : Site) : p ∈ sites grids ↔ p.Within grids := by
  obtain ⟨scale, row, column, anchor⟩ := p
  simp only [sites, sitesOf, List.mem_flatMap, List.mem_map, List.mem_range, List.mem_finRange,
    true_and, Site.mk.injEq, Site.Within]
  constructor
  · rintro ⟨_, _, hrow, _, hcolumn, _, rfl, rfl, rfl, rfl⟩
    exact ⟨hrow, hcolumn⟩
  · rintro ⟨hrow, hcolumn⟩
    exact ⟨scale, row, hrow, column, hcolumn, anchor, rfl, rfl, rfl, rfl⟩

theorem sitesOf_map_number (scale : Fin scaleCount) :
    (sitesOf grids scale).map (Site.number grids) =
      (List.range (anchorsPerCell * (grids.get scale).cells)).map
        (anchorsPerCell * cellsBefore grids scale + ·) := by
  let columns := (grids.get scale).columns
  let first := anchorsPerCell * cellsBefore grids scale
  have cell (row column : Nat) :
      ((List.finRange anchorsPerCell).map fun anchor ↦
        Site.number grids ⟨scale, row, column, anchor⟩) =
          (List.range anchorsPerCell).map
            (first + anchorsPerCell * columns * row + anchorsPerCell * column + ·) := by
    rw [← List.map_coe_finRange_eq_range, List.map_map]
    refine List.map_congr_left fun anchor _ ↦ ?_
    simp only [Site.number, Function.comp_apply, Nat.mul_add, Nat.mul_comm row, Nat.mul_assoc,
      Nat.add_assoc, first, columns]
  simp only [sitesOf, List.map_flatMap, List.map_map, Function.comp_def, cell, flatMap_range_add]
  rw [flatMap_range_add, Grid.cells, Nat.mul_assoc]

theorem sites_map_number : (sites grids).map (Site.number grids) = List.range (sizeOf grids) := by
  simp only [sites, List.map_flatMap, sitesOf_map_number, cellsBefore, sizeOf,
    vector_toList_eq grids, List.map_take, List.map_map]
  exact flatMap_range_scales anchorsPerCell fun scale ↦ (grids.get scale).cells

theorem sitesOf_map_box (scale : Fin scaleCount) :
    (sitesOf grids scale).map (Site.box width height grids) =
      (grids.get scale).anchors width height := by
  have cell (row column : Nat) :
      ((List.finRange anchorsPerCell).map fun anchor ↦
        Site.box width height grids ⟨scale, row, column, anchor⟩) =
          (grids.get scale).cellAnchors width height row column := by
    rw [Grid.cellAnchors, vector_toList_eq, List.map_map]
    rfl
  rw [Grid.anchors, Grid.cells, flatMap_range_mul]
  simp only [sitesOf, List.map_flatMap, List.map_map, Function.comp_def, cell]

theorem sites_map_box : (sites grids).map (Site.box width height grids) =
    grids.toList.flatMap (·.anchors width height) := by
  rw [vector_toList_eq grids, List.flatMap_map, sites, List.map_flatMap]
  simp only [sitesOf_map_box]

variable {grids} in
theorem sites_getElem?_eq_some (n : Nat) (p : Site) :
    (sites grids)[n]? = some p ↔ p.Within grids ∧ p.number grids = n := by
  rw [getElem?_eq_some_of_numbered (sites_map_number grids), mem_sites]

theorem get_eq_ok {t : AnchorTable} {i : Nat} {box : CenterBox} :
    t.get i = .ok box ↔ t.anchors[i]? = some box := by
  unfold get
  split
  case isTrue h => rw [Array.getElem?_eq_getElem h, Except.ok.injEq, Option.some.injEq]
  case isFalse h => simp [Array.getElem?_eq_none (Nat.le_of_not_lt h)]

variable {width height grids} {t : AnchorTable}

theorem ofGrids?_eq_some :
    ofGrids? width height grids = some t ↔ ∃ held, ofGrids width height grids held = t := by
  unfold ofGrids?
  split
  case isTrue held => simp [held]
  case isFalse more => simp [more]

variable (made : ofGrids? width height grids = some t)
include made

theorem anchors_of_ofGrids? (n : Nat) :
    t.anchors[n]? = (sites grids)[n]?.map (Site.box width height grids) := by
  obtain ⟨held, rfl⟩ := ofGrids?_eq_some.1 made
  rw [ofGrids, List.getElem?_toArray, ← sites_map_box, List.getElem?_map]

theorem cells_of_ofGrids? : t.cells = grids.map (·.cells) := by
  obtain ⟨held, rfl⟩ := ofGrids?_eq_some.1 made
  rfl

theorem size_of_ofGrids? : t.size = sizeOf grids := by
  rw [size, t.size_eq, cells_of_ofGrids? made, Vector.toList_map, sizeOf]

theorem box_of_ofGrids? {p : Site} (within : p.Within grids) :
    t.get (p.number grids) = .ok (p.box width height grids) := by
  have there : (sites grids)[p.number grids]? = some p :=
    (sites_getElem?_eq_some _ p).2 ⟨within, rfl⟩
  rw [get_eq_ok, anchors_of_ofGrids? made, there, Option.map_some]

theorem existsUnique_of_ofGrids? {n : Nat} (inside : n < t.size) :
    ∃! p : Site, p.Within grids ∧ p.number grids = n := by
  have counted : n < (sites grids).length := by
    rw [← List.length_map (Site.number grids), sites_map_number, List.length_range]
    rwa [← size_of_ofGrids? made]
  refine ⟨(sites grids)[n], ?_, ?_⟩
  · exact (sites_getElem?_eq_some n _).1 (List.getElem?_eq_getElem counted)
  · intro p hp
    rw [← sites_getElem?_eq_some, List.getElem?_eq_getElem counted] at hp
    exact (Option.some.inj hp).symm

theorem word_of_ofGrids? {p : Site} (within : p.Within grids) :
    p.row < UInt64.size ∧ p.column < UInt64.size := by
  have inside : p.number grids < t.anchors.size := by
    have there := box_of_ofGrids? made within
    rw [get_eq_ok] at there
    exact (Array.getElem?_eq_some_iff.1 there).1
  have few := t.size_le
  have wide : 0 < (grids.get p.scale).columns := Nat.zero_lt_of_lt within.2
  have row := Nat.le_mul_of_pos_right p.row wide
  simp only [Site.number, anchorsPerCell, maxSize, UInt64.size] at inside few ⊢
  omega

variable (width height grids)
omit made

/-- A table is made for all grids whose anchors can be held. It has each of their anchors at its
number, and nothing else. -/
theorem ofGrids?_numbers :
    ((∃ t, ofGrids? width height grids = some t) ↔ sizeOf grids ≤ maxSize) ∧
    ∀ t, ofGrids? width height grids = some t →
      t.cells = grids.map (fun g ↦ g.columns * g.rows) ∧
      t.size = 2 * t.cells.toList.foldr (· + ·) 0 ∧
      (∀ p : Site, p.Within grids →
        p.row < UInt64.size ∧ p.column < UInt64.size ∧
        t.get (p.number grids) = .ok
          { cx := (p.column.toUInt64.toFloat32 + 0.5) * (grids.get p.scale).step / width
            cy := (p.row.toUInt64.toFloat32 + 0.5) * (grids.get p.scale).step / height
            w := (grids.get p.scale).sides.get p.anchor / width
            h := (grids.get p.scale).sides.get p.anchor / height }) ∧
      ∀ n < t.size, ∃! p : Site, p.Within grids ∧ p.number grids = n := by
  refine ⟨by simp [ofGrids?], fun t made ↦ ⟨cells_of_ofGrids? made, t.size_eq, ?_, ?_⟩⟩
  · intro p within
    obtain ⟨row, column⟩ := word_of_ofGrids? made within
    exact ⟨row, column, box_of_ofGrids? made within⟩
  · intro n inside
    exact existsUnique_of_ofGrids? made inside

theorem ofGrids?_numbers_input :
    ∃ t, ofGrids? inputSide inputSide inputGrids = some t ∧ t.size = 4200 ∧
      (⟨1, 3, 5, 1⟩ : Site).Within inputGrids ∧
      t.get 3331 = .ok
        { cx := ((5 : Nat).toUInt64.toFloat32 + 0.5) * 16 / inputSide
          cy := ((3 : Nat).toUInt64.toFloat32 + 0.5) * 16 / inputSide
          w := 128 / inputSide
          h := 128 / inputSide } ∧
      ∃! p : Site, p.Within inputGrids ∧ p.number inputGrids = 4199 := by
  have few : sizeOf inputGrids ≤ maxSize := by decide
  have within : (⟨1, 3, 5, 1⟩ : Site).Within inputGrids := by decide
  obtain ⟨made, spec⟩ := ofGrids?_numbers inputSide inputSide inputGrids
  obtain ⟨t, ht⟩ := made.2 few
  obtain ⟨cells, size, boxes, numbers⟩ := spec t ht
  have size : t.size = 4200 := by
    rw [size, cells, Vector.toList_map]
    rfl
  obtain ⟨-, -, box⟩ := boxes ⟨1, 3, 5, 1⟩ within
  exact ⟨t, ht, size, within, box, numbers 4199 (by rw [size]; decide)⟩

end AnchorTable

end FaceDecode
