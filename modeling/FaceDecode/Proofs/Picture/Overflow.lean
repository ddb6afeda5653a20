import FaceDecode.Proofs.Exposure.Areas
import FaceDecode.Proofs.Geometry.Letterbox
import FaceDecode.Proofs.Picture.Drawing

namespace FaceDecode

/-- A number that a signed word of 32 bits can hold. -/
def Signed (n : Int) : Prop := -0x80000000 ≤ n ∧ n < 0x80000000

instance (n : Int) : Decidable (Signed n) := inferInstanceAs (Decidable (_ ∧ _))

def signed (n : Int) : Except Overflow Int32 :=
  if Signed n then .ok (.ofInt n) else .error ⟨n⟩

theorem signed_toInt (w : Int32) : Signed w.toInt := ⟨w.le_toInt, w.toInt_lt⟩

theorem signed_eq_ok {n : Int} {w : Int32} : signed n = .ok w ↔ w.toInt = n := by
  unfold signed
  split
  case isTrue fits =>
    have exact : (Int32.ofInt n).toInt = n := Int32.toInt_ofInt.trans (Int.bmod_eq_of_le fits.1 fits.2)
    rw [Except.ok.injEq, ← Int32.toInt_inj, exact, eq_comm]
  case isFalse fits =>
    refine iff_of_false (by simp) ?_
    rintro rfl
    exact fits (signed_toInt w)

section Arithmetic

variable {a b w : Int32}

/-- A checked step has the result of the unchecked one, if that is exact. -/
theorem signed_eq_ok_iff {n : Int} (exact : Signed n → a.toInt = n) :
    signed n = .ok w ↔ Signed n ∧ w = a := by
  rw [signed_eq_ok]
  constructor
  · rintro rfl
    exact ⟨signed_toInt w, Int32.toInt_inj.1 (exact (signed_toInt w)).symm⟩
  · rintro ⟨fits, rfl⟩
    exact exact fits

theorem signed_add : signed (a.toInt + b.toInt) = .ok w ↔ Signed (a.toInt + b.toInt) ∧ w = a + b :=
  signed_eq_ok_iff fun fits ↦ toInt_add_of_range fits.1 fits.2

theorem signed_sub : signed (a.toInt - b.toInt) = .ok w ↔ Signed (a.toInt - b.toInt) ∧ w = a - b :=
  signed_eq_ok_iff fun fits ↦ toInt_sub_of_range fits.1 fits.2

theorem signed_mul : signed (a.toInt * b.toInt) = .ok w ↔ Signed (a.toInt * b.toInt) ∧ w = a * b :=
  signed_eq_ok_iff fun fits ↦ toInt_mul_of_range fits.1 fits.2

end Arithmetic

namespace Canvas

def endChecked (first length : Int32) : Except Overflow Int32 := do
  signed ((← signed (first.toInt + length.toInt)).toInt - (1 : Int32).toInt)

def insetChecked (first last t : Int32) : Except Overflow Int32 := do
  let length ← signed (last.toInt - first.toInt)
  let both ← signed ((2 : Int32).toInt * t.toInt)
  signed (length.toInt - both.toInt)

def paintRingChecked (c : Canvas) (left top width height : Int32) : Except Overflow Canvas := do
  let right ← endChecked left width
  let bottom ← endChecked top height
  let c := c.paintRow boxColor top.toInt left.toInt right.toInt
  let c := c.paintRow boxColor bottom.toInt left.toInt right.toInt
  let c := c.paintColumn boxColor left.toInt top.toInt bottom.toInt
  return c.paintColumn boxColor right.toInt top.toInt bottom.toInt

/-- Rings at the given insets where each step has to fit a word. The corner of a ring is only asked for
where the ring has room. -/
def paintRingsChecked (b : PixelBox) : List Int32 → Canvas → Except Overflow Canvas
  | [], c => return c
  | t :: rest, c => do
    let width ← insetChecked b.x1 b.x2 t
    let height ← insetChecked b.y1 b.y2 t
    if width ≤ 0 ∨ height ≤ 0 then return c
    else
      let left ← signed (b.x1.toInt + t.toInt)
      let top ← signed (b.y1.toInt + t.toInt)
      paintRingsChecked b rest (← c.paintRingChecked left top width height)

def paintBoxChecked (c : Canvas) (b : PixelBox) : Except Overflow Canvas :=
  paintRingsChecked b insets c

theorem endChecked_eq {first length : Int32} (low : 0 ≤ first.toInt) (pos : 0 < length.toInt)
    (short : first.toInt + length.toInt < 0x80000000) :
    endChecked first length = .ok (first + length - 1) := by
  have one : (1 : Int32).toInt = 1 := rfl
  have sum_fits : Signed (first.toInt + length.toInt) := ⟨by omega, short⟩
  have sum := signed_add.2 ⟨sum_fits, rfl⟩
  have sum_eq := signed_eq_ok.1 sum
  have last_fits : Signed ((first + length).toInt - (1 : Int32).toInt) := ⟨by omega, by omega⟩
  exact bind_eq_ok.2 ⟨_, sum, signed_sub.2 ⟨last_fits, rfl⟩⟩

theorem insetChecked_eq {first last t : Int32} (low : 0 ≤ first.toInt)
    (order : first.toInt ≤ last.toInt) (thin : 0 ≤ t.toInt ∧ t.toInt ≤ 1) :
    insetChecked first last t = .ok (last - first - 2 * t) ∧
      (last - first - 2 * t).toInt = last.toInt - first.toInt - 2 * t.toInt := by
  have two : (2 : Int32).toInt = 2 := rfl
  have high := last.toInt_lt
  have length_fits : Signed (last.toInt - first.toInt) := ⟨by omega, by omega⟩
  have both_fits : Signed ((2 : Int32).toInt * t.toInt) := by
    rw [two]
    exact ⟨by omega, by omega⟩
  have length := signed_sub.2 ⟨length_fits, rfl⟩
  have both := signed_mul.2 ⟨both_fits, rfl⟩
  have length_eq := signed_eq_ok.1 length
  have both_eq := signed_eq_ok.1 both
  rw [two] at both_eq
  have side_fits : Signed ((last - first).toInt - (2 * t).toInt) := ⟨by omega, by omega⟩
  have side := signed_sub.2 ⟨side_fits, rfl⟩
  refine ⟨bind_eq_ok.2 ⟨_, length, bind_eq_ok.2 ⟨_, both, side⟩⟩, ?_⟩
  rw [signed_eq_ok.1 side, length_eq, both_eq]

theorem paintRingChecked_eq (c : Canvas) {left top width height : Int32} (hl : 0 ≤ left.toInt)
    (ht : 0 ≤ top.toInt) (hw : 0 < width.toInt) (hh : 0 < height.toInt)
    (right : left.toInt + width.toInt < 0x80000000)
    (bottom : top.toInt + height.toInt < 0x80000000) :
    c.paintRingChecked left top width height = .ok (c.paintRing left top width height) :=
  bind_eq_ok.2 ⟨_, endChecked_eq hl hw right, bind_eq_ok.2 ⟨_, endChecked_eq ht hh bottom, rfl⟩⟩

theorem paintRingsChecked_eq {b : PixelBox} {width height : Int} (within : b.Within width height)
    {ts : List Int32} (thin : ∀ t ∈ ts, 0 ≤ t.toInt ∧ t.toInt ≤ 1) (c : Canvas) :
    paintRingsChecked b ts c = .ok (paintRings b ts c) := by
  obtain ⟨left, across, -, top, down, -⟩ := within
  have x2 := b.x2.toInt_lt
  have y2 := b.y2.toInt_lt
  induction ts generalizing c with
  | nil => rfl
  | cons t ts ih =>
    obtain ⟨thin_t, thin⟩ := List.forall_mem_cons.1 thin
    obtain ⟨widthChecked, width_eq⟩ := insetChecked_eq (by omega) across thin_t
    obtain ⟨heightChecked, height_eq⟩ := insetChecked_eq (by omega) down thin_t
    have zero : (0 : Int32).toInt = 0 := rfl
    rw [paintRings]
    refine bind_eq_ok.2 ⟨_, widthChecked, bind_eq_ok.2 ⟨_, heightChecked, ?_⟩⟩
    by_cases none : b.width - 2 * t ≤ 0 ∨ b.height - 2 * t ≤ 0
    · exact (if_pos none).trans (congrArg Except.ok (if_pos none).symm)
    · -- A ring with room ends before its box does, so its corner fits as well.
      have room : 0 < (b.x2 - b.x1 - 2 * t).toInt ∧ 0 < (b.y2 - b.y1 - 2 * t).toInt := by
        rw [not_or, Int32.le_iff_toInt_le, Int32.le_iff_toInt_le, zero] at none
        exact ⟨Int.not_le.1 none.1, Int.not_le.1 none.2⟩
      have x_fits : Signed (b.x1.toInt + t.toInt) := ⟨by omega, by omega⟩
      have y_fits : Signed (b.y1.toInt + t.toInt) := ⟨by omega, by omega⟩
      have corner_x := signed_add.2 ⟨x_fits, rfl⟩
      have corner_y := signed_add.2 ⟨y_fits, rfl⟩
      have x_eq := signed_eq_ok.1 corner_x
      have y_eq := signed_eq_ok.1 corner_y
      refine (if_neg none).trans ?_
      rw [if_neg none]
      refine bind_eq_ok.2 ⟨_, corner_x, bind_eq_ok.2 ⟨_, corner_y, bind_eq_ok.2 ⟨_, ?_, ih thin _⟩⟩⟩
      apply paintRingChecked_eq <;> omega

theorem paintBoxChecked_eq {b : PixelBox} {width height : Int} (within : b.Within width height)
    (c : Canvas) : c.paintBoxChecked b = .ok (c.paintBox b) := by
  apply paintRingsChecked_eq within
  rw [insets, List.forall_mem_cons, List.forall_mem_singleton]
  decide

def paintDiscRowChecked (color : Color) (center : Point Int32) (c : Canvas) (row : Int32 × Int32) :
    Except Overflow Canvas := do
  let y ← signed (center.y.toInt + row.1.toInt)
  let first ← signed (center.x.toInt - row.2.toInt)
  let last ← signed (center.x.toInt + row.2.toInt)
  return c.paintRow color y.toInt first.toInt last.toInt

def paintDiscChecked (c : Canvas) (color : Color) (center : Point Int32) : Except Overflow Canvas :=
  discRows.foldlM (paintDiscRowChecked color center) c

def paintPointsChecked (c : Canvas) (points : Landmarks Int32) : Except Overflow Canvas :=
  (points.toList.zip pointColors.toList).foldlM (fun c (p, color) ↦ c.paintDiscChecked color p) c

def Roomy (n : Int) : Prop := Signed (n - 3) ∧ Signed (n + 3)

instance (n : Int) : Decidable (Roomy n) := inferInstanceAs (Decidable (_ ∧ _))

/-- The ends of the disc around a point fit words. -/
structure DiscFits (p : Point Int32) : Prop where
  x : Roomy p.x.toInt
  y : Roomy p.y.toInt

theorem discFits_iff {p : Point Int32} : DiscFits p ↔ ∀ row ∈ discRows,
    Signed (p.y.toInt + row.1.toInt) ∧ Signed (p.x.toInt - row.2.toInt) ∧
      Signed (p.x.toInt + row.2.toInt) := by
  constructor
  · rintro ⟨⟨left, right⟩, above, below⟩ row hrow
    obtain ⟨rows, forward, columns⟩ := discRows_reach hrow
    unfold Signed at *
    omega
  · intro all
    obtain ⟨above, -, -⟩ := all (-3, 1) (by decide)
    obtain ⟨-, left, right⟩ := all (0, 3) (by decide)
    obtain ⟨below, -, -⟩ := all (3, 1) (by decide)
    exact ⟨⟨left, right⟩, above, below⟩

theorem paintDiscChecked_eq_ok {c c' : Canvas} {color : Color} {p : Point Int32} :
    c.paintDiscChecked color p = .ok c' ↔ DiscFits p ∧ c' = c.paintDisc color p := by
  rw [discFits_iff]
  refine foldlM_eq_ok_iff fun row _ c c' ↦ ?_
  simp only [paintDiscRowChecked, bind_eq_ok, signed_add, signed_sub]
  constructor
  · rintro ⟨_, ⟨y, rfl⟩, _, ⟨first, rfl⟩, _, ⟨last, rfl⟩, done⟩
    exact ⟨⟨y, first, last⟩, (Except.ok.inj done).symm⟩
  · rintro ⟨⟨y, first, last⟩, rfl⟩
    exact ⟨_, ⟨y, rfl⟩, _, ⟨first, rfl⟩, _, ⟨last, rfl⟩, rfl⟩

theorem paintPointsChecked_eq_ok {c c' : Canvas} {points : Landmarks Int32} :
    c.paintPointsChecked points = .ok c' ↔
      (∀ p ∈ points.toList, DiscFits p) ∧ c' = c.paintPoints points := by
  have colored : (points.toList.zip pointColors.toList).map Prod.fst = points.toList :=
    List.map_fst_zip (by simp)
  rw [← colored, List.forall_mem_map]
  exact foldlM_eq_ok_iff fun (p, color) _ c c' ↦ paintDiscChecked_eq_ok

def drawFacesChecked (c : Canvas) (faces : List Face) : Except Overflow Canvas :=
  faces.foldlM (fun c f ↦ do (← c.paintBoxChecked f.box).paintPointsChecked f.landmarks) c

/-- Faces with boxes inside a picture can be drawn just where the discs of all points fit. -/
theorem drawFacesChecked_eq_ok {faces : List Face} {width height : Int}
    (within : ∀ f ∈ faces, f.box.Within width height) {c c' : Canvas} :
    c.drawFacesChecked faces = .ok c' ↔
      (∀ f ∈ faces, ∀ p ∈ f.landmarks.toList, DiscFits p) ∧ c' = c.drawFaces faces := by
  refine foldlM_eq_ok_iff fun f hf c c' ↦ ?_
  rw [paintBoxChecked_eq (within f hf)]
  exact paintPointsChecked_eq_ok

end Canvas

theorem toInt_differenceHeld (a b : Int32) : (differenceHeld a b).toInt =
    max (-0x80000000) (min (a.toInt - b.toInt) 0x7fffffff) := by
  have low : Int32.minValue.toInt = -0x80000000 := by decide
  have high : Int32.maxValue.toInt = 0x7fffffff := by decide
  unfold differenceHeld Int32.ofIntClamp
  split
  case isTrue above =>
    split
    case isTrue below =>
      rw [Int32.toInt_ofIntLE]
      omega
    case isFalse below => omega
  case isFalse above => omega

/-- A point of the network, less the margins, leaves room for a disc where the difference is exact. -/
def Letterbox.LeavesRoom (l : Letterbox) (v : Point Float32) : Prop :=
  Canvas.Roomy ((Number.truncate (v.x * l.scale)).toInt - l.padX.toInt) ∧
    Canvas.Roomy ((Number.truncate (v.y * l.scale)).toInt - l.padY.toInt)

theorem Letterbox.discFits_mapPoint (l : Letterbox) (v : Point Float32) :
    Canvas.DiscFits (l.mapPoint v) ↔ l.LeavesRoom v := by
  have held (a b : Int32) :
      Canvas.Roomy (differenceHeld a b).toInt ↔ Canvas.Roomy (a.toInt - b.toInt) := by
    rw [toInt_differenceHeld]
    unfold Canvas.Roomy Signed
    omega
  rw [LeavesRoom, ← held, ← held]
  exact ⟨fun h ↦ ⟨h.x, h.y⟩, fun h ↦ ⟨h.1, h.2⟩⟩

end FaceDecode
