import FaceDecode.Picture.Canvas
import Mathlib.Data.Nat.Init

namespace FaceDecode.Canvas

theorem index_inj {width x y x' y' : Nat} (hx : x < width) (hx' : x' < width) :
    y * width + x = y' * width + x' ↔ x = x' ∧ y = y' := by
  have parts {x y : Nat} (hx : x < width) :
      (y * width + x) / width = y ∧ (y * width + x) % width = x :=
    (Nat.div_mod_unique (Nat.zero_lt_of_lt hx)).2 ⟨by rw [Nat.mul_comm, Nat.add_comm], hx⟩
  constructor
  · intro same
    have first := parts (y := y) hx
    rw [same, (parts hx').1, (parts hx').2] at first
    exact ⟨first.2.symm, first.1.symm⟩
  · rintro ⟨rfl, rfl⟩
    rfl

/-- What a step does that paints the pixels of an area in one colour and no others. -/
structure Paints (area : (x y : Int) → Prop) (color : Color) (c c' : Canvas) : Prop where
  width_eq : c'.width = c.width
  height_eq : c'.height = c.height
  painted : ∀ x y : Nat, x < c.width → y < c.height → area x y → c'.pixel? x y = some color
  kept : ∀ x y : Nat, x < c.width → y < c.height → ¬ area x y → c'.pixel? x y = c.pixel? x y

namespace Paints

variable {area area' : (x y : Int) → Prop} {color : Color} {c c' c'' : Canvas}

theorem nothing : Paints (fun _ _ ↦ False) color c c :=
  ⟨rfl, rfl, fun _ _ _ _ h ↦ h.elim, fun _ _ _ _ _ ↦ rfl⟩

theorem congr (h : Paints area color c c')
    (same : ∀ x y : Nat, x < c.width → y < c.height → (area x y ↔ area' x y)) :
    Paints area' color c c' :=
  ⟨h.width_eq, h.height_eq, fun x y hx hy there ↦ h.painted x y hx hy ((same x y hx hy).2 there),
    fun x y hx hy beside ↦ h.kept x y hx hy fun there ↦ beside ((same x y hx hy).1 there)⟩

theorem trans (h : Paints area color c c') (h' : Paints area' color c' c'') :
    Paints (fun x y ↦ area x y ∨ area' x y) color c c'' where
  width_eq := h'.width_eq.trans h.width_eq
  height_eq := h'.height_eq.trans h.height_eq
  painted x y hx hy there := by
    have hx' : x < c'.width := h.width_eq.symm ▸ hx
    have hy' : y < c'.height := h.height_eq.symm ▸ hy
    by_cases later : area' x y
    · exact h'.painted x y hx' hy' later
    · exact (h'.kept x y hx' hy' later).trans (h.painted x y hx hy (there.resolve_right later))
  kept x y hx hy beside := by
    rw [not_or] at beside
    exact (h'.kept x y (h.width_eq.symm ▸ hx) (h.height_eq.symm ▸ hy) beside.2).trans
      (h.kept x y hx hy beside.1)

theorem foldl {α : Type} {areas : α → (x y : Int) → Prop} {step : Canvas → α → Canvas} {l : List α}
    (h : ∀ a ∈ l, ∀ c, Paints (areas a) color c (step c a)) (c : Canvas) :
    Paints (fun x y ↦ ∃ a ∈ l, areas a x y) color c (l.foldl step c) := by
  induction l generalizing c with
  | nil => exact nothing.congr fun x y _ _ ↦ by simp
  | cons a l ih =>
    have rest := ih (fun b hb ↦ h b (List.mem_cons_of_mem a hb)) (step c a)
    exact ((h a List.mem_cons_self c).trans rest).congr fun x y _ _ ↦ by simp

end Paints

theorem paints_set (c : Canvas) (x y : Nat) (color : Color) :
    Paints (fun x' y' ↦ x' = x ∧ y' = y) color c (c.set x y color) := by
  unfold set
  split
  case isTrue inside =>
    have pixel (x' y' : Nat) (hx : x' < c.width) (hy : y' < c.height) :
        pixel? { c with pixels := c.pixels.set (y * c.width + x) color (index_lt inside.1 inside.2) }
          x' y' = if x = x' ∧ y = y' then some color else c.pixel? x' y' := by
      rw [pixel?, dif_pos ⟨hx, hy⟩, pixel?, dif_pos ⟨hx, hy⟩, ← apply_ite some]
      refine congrArg some ?_
      simp only [← index_inj inside.1 hx]
      exact Vector.getElem_set _ _
    refine ⟨rfl, rfl, fun x' y' hx hy there ↦ ?_, fun x' y' hx hy beside ↦ ?_⟩
    · rw [pixel x' y' hx hy, if_pos (by omega)]
    · rw [pixel x' y' hx hy, if_neg (by omega)]
  case isFalse outside =>
    refine ⟨rfl, rfl, fun x' y' hx hy there ↦ ?_, fun x' y' _ _ _ ↦ rfl⟩
    exact absurd ⟨by omega, by omega⟩ outside

theorem mem_between {size n : Nat} {first last : Int} :
    n ∈ between size first last ↔ n < size ∧ min first last ≤ n ∧ n ≤ max first last := by
  rw [between, List.mem_range'_1]
  omega

theorem exists_mem_between {size n : Nat} {first last : Int} (h : n < size) (p : Prop) :
    (∃ m ∈ between size first last, (n : Int) = m ∧ p) ↔
      (min first last ≤ n ∧ n ≤ max first last) ∧ p := by
  constructor
  · rintro ⟨m, hm, same, hp⟩
    rw [same]
    exact ⟨(mem_between.1 hm).2, hp⟩
  · intro ⟨inside, hp⟩
    exact ⟨n, mem_between.2 ⟨h, inside⟩, rfl, hp⟩

theorem exists_mem_between_self {size n : Nat} {place : Int} (h : n < size) (p : Prop) :
    (∃ m ∈ between size place place, (n : Int) = m ∧ p) ↔ n = place ∧ p := by
  have here : min place place ≤ n ∧ n ≤ max place place ↔ (n : Int) = place := by omega
  rw [exists_mem_between h, here]

theorem paints_paintRow (c : Canvas) (color : Color) (y first last : Int) :
    Paints (fun x' y' ↦ y' = y ∧ min first last ≤ x' ∧ x' ≤ max first last) color c
      (c.paintRow color y first last) := by
  have step (row : Nat) (c : Canvas) :
      Paints (fun x' y' ↦ y' = row ∧ min first last ≤ x' ∧ x' ≤ max first last) color c
        ((between c.width first last).foldl (fun c column ↦ c.set column row color) c) :=
    (Paints.foldl (fun column _ c ↦ paints_set c column row color) c).congr fun x' y' hx _ ↦
      (exists_mem_between hx _).trans and_comm
  exact (Paints.foldl (fun row _ c ↦ step row c) c).congr fun x' y' _ hy ↦
    exists_mem_between_self hy _

theorem paints_paintColumn (c : Canvas) (color : Color) (x first last : Int) :
    Paints (fun x' y' ↦ x' = x ∧ min first last ≤ y' ∧ y' ≤ max first last) color c
      (c.paintColumn color x first last) := by
  have step (column : Nat) (c : Canvas) :
      Paints (fun x' y' ↦ x' = column ∧ min first last ≤ y' ∧ y' ≤ max first last) color c
        ((between c.height first last).foldl (fun c row ↦ c.set column row color) c) := by
    refine (Paints.foldl (fun row _ c ↦ paints_set c column row color) c).congr fun x' y' _ hy ↦ ?_
    simp only [and_comm (a := (x' : Int) = column)]
    exact exists_mem_between hy _
  exact (Paints.foldl (fun column _ c ↦ step column c) c).congr fun x' y' hx _ ↦
    exists_mem_between_self hx _

end FaceDecode.Canvas
