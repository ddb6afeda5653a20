import FaceDecode.Picture.Drawing
import FaceDecode.Proofs.Picture.Painting
import Mathlib.Data.Int.Interval
import Mathlib.Tactic.Linarith

namespace FaceDecode

theorem toInt_add_of_range {a b : Int32} (low : -0x80000000 ≤ a.toInt + b.toInt)
    (high : a.toInt + b.toInt < 0x80000000) : (a + b).toInt = a.toInt + b.toInt := by
  rw [Int32.toInt_add]
  exact Int.bmod_eq_of_le low high

theorem toInt_sub_of_range {a b : Int32} (low : -0x80000000 ≤ a.toInt - b.toInt)
    (high : a.toInt - b.toInt < 0x80000000) : (a - b).toInt = a.toInt - b.toInt := by
  rw [Int32.toInt_sub]
  exact Int.bmod_eq_of_le low high

theorem toInt_mul_of_range {a b : Int32} (low : -0x80000000 ≤ a.toInt * b.toInt)
    (high : a.toInt * b.toInt < 0x80000000) : (a * b).toInt = a.toInt * b.toInt := by
  rw [Int32.toInt_mul]
  exact Int.bmod_eq_of_le low high

namespace Canvas

inductive Shape where
  | box (b : PixelBox)
  | disc (center : Point Int32)

/-- How far a pixel lies inside a box; its edge has depth zero. -/
def depth (b : PixelBox) (x y : Int) : Int :=
  min (min (x - b.x1.toInt) (b.x2.toInt - 1 - x)) (min (y - b.y1.toInt) (b.y2.toInt - 1 - y))

/-- The pixels of a shape: the border of a box, two pixels wide, and those that lie less than three and a
half pixels from the centre of a disc. -/
def Shape.Covers : Shape → (x y : Int) → Prop
  | box b, x, y =>
    (b.x1.toInt ≤ x ∧ x < b.x2.toInt) ∧ (b.y1.toInt ≤ y ∧ y < b.y2.toInt) ∧ depth b x y < 2
  | disc p, x, y => 4 * ((x - p.x.toInt) ^ 2 + (y - p.y.toInt) ^ 2) < 49

instance (s : Shape) (x y : Int) : Decidable (s.Covers x y) :=
  match s with
  | .box _ => inferInstanceAs (Decidable (_ ∧ _ ∧ _))
  | .disc _ => inferInstanceAs (Decidable (_ < _))

/-- A coordinate small enough for all that is drawn around it. -/
def Near (n : Int32) : Prop := |n.toInt| < 2 ^ 23

instance (n : Int32) : Decidable (Near n) := inferInstanceAs (Decidable (_ < _))

theorem near_iff {n : Int32} : Near n ↔ -0x800000 < n.toInt ∧ n.toInt < 0x800000 := abs_lt

structure NearBox (b : PixelBox) : Prop where
  x1 : Near b.x1
  y1 : Near b.y1
  x2 : Near b.x2
  y2 : Near b.y2

theorem paints_paintRing (c : Canvas) {left top width height : Int32} (hw : 0 < width.toInt)
    (hh : 0 < height.toInt) (right : left.toInt + width.toInt < 0x80000000)
    (bottom : top.toInt + height.toInt < 0x80000000) :
    Paints (fun x y ↦
        (left.toInt ≤ x ∧ x < left.toInt + width.toInt) ∧
        (top.toInt ≤ y ∧ y < top.toInt + height.toInt) ∧
        (x = left.toInt ∨ x = left.toInt + width.toInt - 1 ∨
          y = top.toInt ∨ y = top.toInt + height.toInt - 1))
      boxColor c (c.paintRing left top width height) := by
  have last {first length : Int32} (pos : 0 < length.toInt)
      (short : first.toInt + length.toInt < 0x80000000) :
      (first + length - 1).toInt = first.toInt + length.toInt - 1 := by
    have low : -0x80000000 ≤ first.toInt := first.le_toInt
    have sum : (first + length).toInt = first.toInt + length.toInt :=
      toInt_add_of_range (by omega) short
    have one : (1 : Int32).toInt = 1 := rfl
    rw [toInt_sub_of_range] <;> omega
  unfold paintRing
  simp only [last hw right, last hh bottom]
  refine ((((paints_paintRow _ _ _ _ _).trans (paints_paintRow _ _ _ _ _)).trans
    (paints_paintColumn _ _ _ _ _)).trans (paints_paintColumn _ _ _ _ _)).congr fun x y _ _ ↦ ?_
  omega

theorem toInt_inset {first last t : Int32} (hf : Near first) (hl : Near last) (ht : Near t) :
    (first + t).toInt = first.toInt + t.toInt ∧
      (last - first - 2 * t).toInt = last.toInt - first.toInt - 2 * t.toInt := by
  rw [near_iff] at hf hl ht
  have two : (2 : Int32).toInt = 2 := rfl
  have double : (2 * t).toInt = 2 * t.toInt := by
    rw [toInt_mul_of_range (by rw [two]; omega) (by rw [two]; omega), two]
  have length : (last - first).toInt = last.toInt - first.toInt := by
    rw [toInt_sub_of_range] <;> omega
  constructor
  · rw [toInt_add_of_range] <;> omega
  · rw [toInt_sub_of_range] <;> omega

theorem depth_eq_iff {b : PixelBox} {x y t : Int} :
    depth b x y = t ↔
      (b.x1.toInt + t ≤ x ∧ x < b.x2.toInt - t) ∧ (b.y1.toInt + t ≤ y ∧ y < b.y2.toInt - t) ∧
        (x = b.x1.toInt + t ∨ x = b.x2.toInt - t - 1 ∨
          y = b.y1.toInt + t ∨ y = b.y2.toInt - t - 1) := by
  rw [depth]
  omega

theorem paints_paintRings {b : PixelBox} (near : NearBox b) {ts : List Int32}
    (rising : ts.Pairwise (·.toInt ≤ ·.toInt)) (small : ∀ t ∈ ts, 0 ≤ t.toInt ∧ Near t)
    (c : Canvas) :
    Paints (fun x y ↦ ∃ t ∈ ts, depth b x y = t.toInt) boxColor c (paintRings b ts c) := by
  induction ts generalizing c with
  | nil => exact Paints.nothing.congr fun x y _ _ ↦ by simp
  | cons t ts ih =>
    obtain ⟨deeper, rising⟩ := List.pairwise_cons.1 rising
    obtain ⟨⟨inside, near_t⟩, small⟩ := List.forall_mem_cons.1 small
    obtain ⟨left, width⟩ := toInt_inset near.x1 near.x2 near_t
    obtain ⟨top, height⟩ := toInt_inset near.y1 near.y2 near_t
    have zero : (0 : Int32).toInt = 0 := rfl
    rw [paintRings]
    simp only [PixelBox.width, PixelBox.height, Int32.le_iff_toInt_le, width, height, zero]
    split
    case isTrue none =>
      -- A ring without room ends the painting: no pixel lies at its depth, or deeper.
      refine Paints.nothing.congr fun x y _ _ ↦ iff_of_false id ?_
      rintro ⟨t', ht', here⟩
      have later : t.toInt ≤ t'.toInt := by
        rcases List.mem_cons.1 ht' with rfl | ht'
        · exact le_rfl
        · exact deeper t' ht'
      obtain ⟨columns, rows, -⟩ := depth_eq_iff.1 here
      omega
    case isFalse room =>
      have x2 := near_iff.1 near.x2
      have y2 := near_iff.1 near.y2
      have right : (b.x1 + t).toInt + (b.x2 - b.x1 - 2 * t).toInt = b.x2.toInt - t.toInt := by omega
      have bottom : (b.y1 + t).toInt + (b.y2 - b.y1 - 2 * t).toInt = b.y2.toInt - t.toInt := by omega
      refine ((c.paints_paintRing (by omega) (by omega) (by omega) (by omega)).trans
        (ih rising small _)).congr fun x y _ _ ↦ ?_
      rw [List.exists_mem_cons_iff, depth_eq_iff, right, bottom, left, top]

theorem paints_paintBox {b : PixelBox} (near : NearBox b) (c : Canvas) :
    Paints (Shape.box b).Covers boxColor c (c.paintBox b) := by
  have small : ∀ t ∈ insets, 0 ≤ t.toInt ∧ Near t := by
    rw [insets, List.forall_mem_cons, List.forall_mem_singleton]
    decide
  refine (paints_paintRings near (by decide) small c).congr fun x y _ _ ↦ ?_
  have zero : (0 : Int32).toInt = 0 := rfl
  have one : (1 : Int32).toInt = 1 := rfl
  simp only [insets, List.mem_cons, List.not_mem_nil, exists_eq_or_imp, zero, one, Shape.Covers, depth]
  simp only [false_and, exists_false, or_false]
  omega

theorem discRows_reach {r : Int32 × Int32} (h : r ∈ discRows) :
    (-3 ≤ r.1.toInt ∧ r.1.toInt ≤ 3) ∧ 0 ≤ r.2.toInt ∧ r.2.toInt ≤ 3 := by
  have all : discRows.all fun r ↦
      (-3 ≤ r.1.toInt ∧ r.1.toInt ≤ 3) ∧ 0 ≤ r.2.toInt ∧ r.2.toInt ≤ 3 := by
    decide
  exact of_decide_eq_true (List.all_eq_true.1 all r h)

theorem exists_discRow_iff (dx dy : Int) :
    (∃ r ∈ discRows, dy = r.1.toInt ∧ -r.2.toInt ≤ dx ∧ dx ≤ r.2.toInt) ↔
      4 * (dx ^ 2 + dy ^ 2) < 49 := by
  have inner : ∀ dx ∈ Finset.Icc (-3 : Int) 3, ∀ dy ∈ Finset.Icc (-3 : Int) 3,
      (∃ r ∈ discRows, dy = r.1.toInt ∧ -r.2.toInt ≤ dx ∧ dx ≤ r.2.toInt) ↔
        4 * (dx ^ 2 + dy ^ 2) < 49 := by
    decide
  simp only [Finset.mem_Icc] at inner
  constructor
  · intro h
    obtain ⟨r, hr, rfl, low, high⟩ := h
    obtain ⟨rows, -, columns⟩ := discRows_reach hr
    exact (inner dx (by omega) _ rows).1 ⟨r, hr, rfl, low, high⟩
  · intro close
    refine (inner dx ?_ dy ?_).2 close
    · constructor <;> nlinarith [sq_nonneg dy]
    · constructor <;> nlinarith [sq_nonneg dx]

theorem paints_paintDisc {p : Point Int32} (hx : Near p.x) (hy : Near p.y) (color : Color)
    (c : Canvas) : Paints (Shape.disc p).Covers color c (c.paintDisc color p) := by
  have row (r : Int32 × Int32) (hr : r ∈ discRows) (c : Canvas) :
      Paints (fun x y ↦ y - p.y.toInt = r.1.toInt ∧ -r.2.toInt ≤ x - p.x.toInt ∧
        x - p.x.toInt ≤ r.2.toInt) color c
        (c.paintRow color (p.y + r.1).toInt (p.x - r.2).toInt (p.x + r.2).toInt) := by
    obtain ⟨rows, forward, columns⟩ := discRows_reach hr
    rw [near_iff] at hx hy
    rw [toInt_add_of_range, toInt_sub_of_range, toInt_add_of_range]
    refine (paints_paintRow c color _ _ _).congr fun x y _ _ ↦ ?_
    all_goals omega
  exact (Paints.foldl row c).congr fun x y _ _ ↦ exists_discRow_iff _ _

abbrev Layer := Shape × Color

/-- The colour of the last layer that covers a pixel. -/
def topmost (layers : List Layer) (x y : Int) : Option Color :=
  (layers.reverse.find? fun layer ↦ layer.1.Covers x y).map Prod.snd

theorem topmost_append (layers layers' : List Layer) (x y : Int) :
    topmost (layers ++ layers') x y = (topmost layers' x y).or (topmost layers x y) := by
  rw [topmost, List.reverse_append, List.find?_append, Option.map_or]
  rfl

/-- What a step does that puts layers on a canvas, one over the other. -/
structure Layered (layers : List Layer) (c c' : Canvas) : Prop where
  width_eq : c'.width = c.width
  height_eq : c'.height = c.height
  pixel_eq : ∀ x y : Nat, x < c.width → y < c.height →
    c'.pixel? x y = (topmost layers x y).or (c.pixel? x y)

theorem Paints.layered {s : Shape} {color : Color} {c c' : Canvas}
    (h : Paints s.Covers color c c') : Layered [(s, color)] c c' where
  width_eq := h.width_eq
  height_eq := h.height_eq
  pixel_eq x y hx hy := by
    by_cases covers : s.Covers x y
    · rw [h.painted x y hx hy covers]
      simp [topmost, covers]
    · rw [h.kept x y hx hy covers]
      simp [topmost, covers]

namespace Layered

variable {layers layers' : List Layer} {c c' c'' : Canvas}

theorem refl (c : Canvas) : Layered [] c c := ⟨rfl, rfl, fun _ _ _ _ ↦ rfl⟩

theorem trans (h : Layered layers c c') (h' : Layered layers' c' c'') :
    Layered (layers ++ layers') c c'' where
  width_eq := h'.width_eq.trans h.width_eq
  height_eq := h'.height_eq.trans h.height_eq
  pixel_eq x y hx hy := by
    rw [h'.pixel_eq x y (h.width_eq.symm ▸ hx) (h.height_eq.symm ▸ hy), h.pixel_eq x y hx hy,
      topmost_append, Option.or_assoc]

theorem foldl {α : Type} {layersOf : α → List Layer} {step : Canvas → α → Canvas} {l : List α}
    (h : ∀ a ∈ l, ∀ c, Layered (layersOf a) c (step c a)) (c : Canvas) :
    Layered (l.flatMap layersOf) c (l.foldl step c) := by
  induction l generalizing c with
  | nil => exact refl c
  | cons a l ih =>
    exact (h a List.mem_cons_self c).trans
      (ih (fun b hb ↦ h b (List.mem_cons_of_mem a hb)) (step c a))

end Layered

def layersOf (f : Face) : List Layer :=
  (.box f.box, boxColor) ::
    (f.landmarks.toList.zip pointColors.toList).map fun (p, color) ↦ (.disc p, color)

structure NearFace (f : Face) : Prop where
  box : NearBox f.box
  points : ∀ p ∈ f.landmarks.toList, Near p.x ∧ Near p.y

theorem layered_paintPoints {points : Landmarks Int32}
    (near : ∀ p ∈ points.toList, Near p.x ∧ Near p.y) (c : Canvas) :
    Layered ((points.toList.zip pointColors.toList).map fun (p, color) ↦ (.disc p, color)) c
      (c.paintPoints points) := by
  rw [List.map_eq_flatMap]
  refine Layered.foldl (fun (p, color) h c ↦ ?_) c
  obtain ⟨hx, hy⟩ := near p (List.of_mem_zip h).1
  exact (paints_paintDisc hx hy color c).layered

theorem layered_drawFaces {faces : List Face} (near : ∀ f ∈ faces, NearFace f) (c : Canvas) :
    Layered (faces.flatMap layersOf) c (c.drawFaces faces) :=
  Layered.foldl (fun f hf c ↦ (paints_paintBox (near f hf).box c).layered.trans
    (layered_paintPoints (near f hf).points _)) c

theorem not_covers_of_empty {b : PixelBox} (h : b.x2 ≤ b.x1 ∨ b.y2 ≤ b.y1) (x y : Int) :
    ¬ (Shape.box b).Covers x y := by
  rw [Int32.le_iff_toInt_le, Int32.le_iff_toInt_le] at h
  rw [Shape.Covers]
  omega

/-- Drawing faces keeps the size of a picture. Each of its pixels gets the colour of the last layer that
covers it, and keeps its own where there is none. A box without an inside covers nothing. -/
theorem drawFaces_layers {faces : List Face} (near : ∀ f ∈ faces, NearFace f) (c : Canvas) :
    (c.drawFaces faces).width = c.width ∧ (c.drawFaces faces).height = c.height ∧
    (∀ x y : Nat, x < c.width → y < c.height →
      (∃ before shape color after, faces.flatMap layersOf = before ++ (shape, color) :: after ∧
        shape.Covers x y ∧ (∀ layer ∈ after, ¬ layer.1.Covers x y) ∧
        (c.drawFaces faces).pixel? x y = some color) ∨
      (∀ layer ∈ faces.flatMap layersOf, ¬ layer.1.Covers x y) ∧
        (c.drawFaces faces).pixel? x y = c.pixel? x y) ∧
    ∀ b : PixelBox, b.x2 ≤ b.x1 ∨ b.y2 ≤ b.y1 → ∀ x y, ¬ (Shape.box b).Covers x y := by
  obtain ⟨width, height, pixel⟩ := layered_drawFaces near c
  refine ⟨width, height, fun x y hx hy ↦ ?_, fun b ↦ not_covers_of_empty⟩
  rw [pixel x y hx hy, topmost]
  cases found : (faces.flatMap layersOf).reverse.find? fun layer ↦ layer.1.Covers x y with
  | none =>
    refine .inr ⟨?_, rfl⟩
    simpa using found
  | some layer =>
    obtain ⟨covers, after, before, split, missed⟩ := List.find?_eq_some_iff_append.1 found
    obtain ⟨shape, color⟩ := layer
    refine .inl ⟨before.reverse, shape, color, after.reverse, ?_, by simpa using covers, ?_, rfl⟩
    · rw [List.reverse_eq_iff.1 split]
      simp
    · intro layer hl
      simpa using missed layer (List.mem_reverse.1 hl)

theorem drawFaces_layers_clipped :
    let f : Face := {
      score := 0.5, box := ⟨8, 8, 100, 100⟩
      landmarks := #v[⟨-20, -20⟩, ⟨200, 5⟩, ⟨5, 200⟩, ⟨8, 8⟩, ⟨15, 15⟩] }
    let c : Canvas := .filled 16 16 ⟨10, 20, 30⟩
    NearFace f ∧ (c.drawFaces [f]).width = 16 ∧ (c.drawFaces [f]).height = 16 ∧
      (c.drawFaces [f]).pixel? 8 12 = some boxColor ∧
      (c.drawFaces [f]).pixel? 9 9 = some ⟨255, 0, 255⟩ ∧
      (c.drawFaces [f]).pixel? 12 11 = some ⟨10, 20, 30⟩ := by
  intro f c
  have near : NearFace f := ⟨⟨by decide, by decide, by decide, by decide⟩, by decide⟩
  have all : ∀ g ∈ [f], NearFace g := List.forall_mem_singleton.2 near
  obtain ⟨width, height, pixel, -⟩ := drawFaces_layers all c
  have box (l : Layer) (hl : l ∈ [f].flatMap layersOf) : l.1.Covers 8 12 → l.2 = boxColor := by
    revert l
    decide
  have last : ∀ i < ([f].flatMap layersOf).length, ∀ layer ∈ ([f].flatMap layersOf)[i]?,
      layer.1.Covers 9 9 → (∀ layer' ∈ ([f].flatMap layersOf).drop (i + 1), ¬ layer'.1.Covers 9 9) →
        layer.2 = ⟨255, 0, 255⟩ := by
    decide
  refine ⟨near, width, height, ?_, ?_, ?_⟩
  · obtain ⟨before, shape, color, after, split, covers, -, shown⟩ | ⟨none, -⟩ :=
      pixel 8 12 (by decide) (by decide)
    · rw [shown, ← box (shape, color) (by simp [split]) covers]
    · exact absurd none (by decide)
  · obtain ⟨before, shape, color, after, split, covers, later, shown⟩ | ⟨none, -⟩ :=
      pixel 9 9 (by decide) (by decide)
    · rw [shown, ← last before.length (by simp [split]) (shape, color) (by simp [split]) covers ?_]
      rwa [split, List.drop_length_add_append]
    · exact absurd none (by decide)
  · obtain ⟨before, shape, color, after, split, covers, -, -⟩ | ⟨-, kept⟩ :=
      pixel 12 11 (by decide) (by decide)
    · have beside : ∀ l ∈ [f].flatMap layersOf, ¬ l.1.Covers 12 11 := by decide
      exact absurd covers (beside (shape, color) (by simp [split]))
    · exact kept

end Canvas

end FaceDecode
