import FaceDecode.Number.Order
import FaceDecode.Proofs.Number.Encoding

namespace FaceDecode.Number

open Float.Model Float.Model.UnpackedFloat

/-- Equal, or two zeros. -/
def PartsAlike (u v : UnpackedFloat) : Prop := u = v ∨ ∃ s t, u = .zero s ∧ v = .zero t

namespace PartsAlike

variable {u u' v v' : UnpackedFloat}

theorem refl (u : UnpackedFloat) : PartsAlike u u := .inl rfl

theorem zeros (s t : Sign) : PartsAlike (.zero s) (.zero t) := .inr ⟨s, t, rfl, rfl⟩

theorem sub_zeros (u : UnpackedFloat) (s t : Sign) :
    PartsAlike (.sub .binary32 u (.zero s)) (.sub .binary32 u (.zero t)) := by
  cases u with
  | zero r =>
    simp only [UnpackedFloat.sub]
    split <;> split <;> exact zeros _ _
  | notANumber | infinity r | finite r m e h => exact refl _

theorem zeros_sub (v : UnpackedFloat) (s t : Sign) :
    PartsAlike (.sub .binary32 (.zero s) v) (.sub .binary32 (.zero t) v) := by
  cases v with
  | zero r =>
    simp only [UnpackedFloat.sub]
    split <;> split <;> exact zeros _ _
  | notANumber | infinity r | finite r m e h => exact refl _

theorem sub (h : PartsAlike u u') (h' : PartsAlike v v') :
    PartsAlike (.sub .binary32 u v) (.sub .binary32 u' v') := by
  obtain rfl | ⟨s, t, rfl, rfl⟩ := h
  · obtain rfl | ⟨s, t, rfl, rfl⟩ := h'
    · exact refl _
    · exact sub_zeros u s t
  · obtain rfl | ⟨s', t', rfl, rfl⟩ := h'
    · exact zeros_sub v s t
    · simp only [UnpackedFloat.sub]
      split <;> split <;> exact zeros _ _

theorem mul (h : PartsAlike u u') (h' : PartsAlike v v') :
    PartsAlike (.mul .binary32 u v) (.mul .binary32 u' v') := by
  obtain rfl | ⟨s, t, rfl, rfl⟩ := h
  · obtain rfl | ⟨s, t, rfl, rfl⟩ := h'
    · exact refl _
    · cases u with
      | notANumber | infinity r => exact refl _
      | zero r | finite r m e h => exact zeros _ _
  · obtain rfl | ⟨s', t', rfl, rfl⟩ := h'
    · cases v with
      | notANumber | infinity r => exact refl _
      | zero r | finite r m e h => exact zeros _ _
    · exact zeros _ _

theorem div (h : PartsAlike u u') (v : UnpackedFloat) :
    PartsAlike (.div .binary32 u v) (.div .binary32 u' v) := by
  obtain rfl | ⟨s, t, rfl, rfl⟩ := h
  · exact refl _
  · cases v with
    | notANumber | zero r => exact refl _
    | infinity r | finite r m e h => exact zeros _ _

theorem compare (h : PartsAlike u u') (h' : PartsAlike v v') : u.compare v = u'.compare v' := by
  obtain rfl | ⟨s, t, rfl, rfl⟩ := h
  · obtain rfl | ⟨s, t, rfl, rfl⟩ := h'
    · rfl
    · cases u with
      | notANumber | zero r => rfl
      | infinity r | finite r m e h => cases r <;> rfl
  · obtain rfl | ⟨s', t', rfl, rfl⟩ := h'
    · cases v with
      | notANumber | zero r => rfl
      | infinity r | finite r m e h => cases r <;> rfl
    · rfl

end PartsAlike

def Alike (x y : Float32) : Prop := PartsAlike (parts x) (parts y)

namespace Alike

variable {x x' y y' : Float32}

theorem refl (x : Float32) : Alike x x := .inl rfl

theorem parts_pack_zero (s : Sign) : parts (.ofModel (.pack (.zero s))) = .zero s := by
  cases s <;> rfl

theorem pack {u v : UnpackedFloat} (h : PartsAlike u v) :
    Alike (.ofModel (.pack u)) (.ofModel (.pack v)) := by
  obtain rfl | ⟨s, t, rfl, rfl⟩ := h
  · exact refl _
  · exact .inr ⟨s, t, parts_pack_zero s, parts_pack_zero t⟩

theorem sub (h : Alike x x') (h' : Alike y y') : Alike (x - y) (x' - y') :=
  pack (PartsAlike.sub h h')

theorem mul (h : Alike x x') (h' : Alike y y') : Alike (x * y) (x' * y') :=
  pack (PartsAlike.mul h h')

theorem div (h : Alike x x') (y : Float32) : Alike (x / y) (x' / y) :=
  pack (PartsAlike.div h (parts y))

theorem le_iff (h : Alike x x') (h' : Alike y y') : x ≤ y ↔ x' ≤ y' := by
  rw [le_iff_compare, le_iff_compare, PartsAlike.compare h h']

theorem lt_iff (h : Alike x x') (h' : Alike y y') : x < y ↔ x' < y' := by
  rw [lt_iff_compare, lt_iff_compare, PartsAlike.compare h h']

/-- Only a zero has more than one form. -/
theorem eq_of_not_le_zero (h : Alike x y) (hx : ¬ x ≤ 0) : x = y := by
  obtain h | ⟨s, t, hs, ht⟩ := h
  · exact parts_injective h
  · refine absurd ?_ hx
    rw [le_iff_compare, hs]
    rfl

end Alike

theorem add_parts_comm (u v : UnpackedFloat) : u.add .binary32 v = v.add .binary32 u := by
  cases u with
  | notANumber => cases v <;> rfl
  | infinity s =>
    cases v with
    | infinity t => cases s <;> cases t <;> rfl
    | notANumber | zero t | finite t m e h => rfl
  | zero s =>
    cases v with
    | zero t => cases s <;> cases t <;> rfl
    | notANumber | infinity t | finite t m e h => rfl
  | finite s m e h =>
    cases v with
    | finite t n d h' => simp only [UnpackedFloat.add, Int.min_comm e d, Int.add_comm]
    | notANumber | infinity t | zero t => rfl

theorem add_comm (x y : Float32) : x + y = y + x :=
  congrArg (Float32.ofModel ∘ Float32.Model.pack) (add_parts_comm (parts x) (parts y))

theorem alike_of_key_eq {x y : Float32} (h : key x = key y) : Alike x y := by
  unfold key at h
  by_cases zero : magnitude x = 0
  · have hy : magnitude y = 0 := by
      cases hs : sign x <;> cases ht : sign y <;> rw [hs, ht] at h <;> simp only [Sign.apply] at h <;>
        omega
    refine .inr ⟨sign x, sign y, ?_, ?_⟩
    · rw [parts_eq, zero]
      rfl
    · rw [parts_eq, hy]
      rfl
  · have same : sign x = sign y ∧ magnitude x = magnitude y := by
      cases hs : sign x <;> cases ht : sign y <;> rw [hs, ht] at h <;> simp only [Sign.apply] at h <;>
        simp <;> omega
    left
    rw [parts_eq, parts_eq, same.1, same.2]

theorem alike_of_isNaN {x y : Float32} (hx : x.isNaN = true) (hy : y.isNaN = true) : Alike x y := by
  left
  rw [parts_eq_notANumber ((isNaN_iff x).1 hx), parts_eq_notANumber ((isNaN_iff y).1 hy)]

theorem alike_of_not_lt {x y : Float32} (hx : ¬ x.isNaN = true) (hy : ¬ y.isNaN = true)
    (h : ¬ x < y) (h' : ¬ y < x) : Alike x y := by
  rw [isNaN_iff, Nat.not_lt] at hx hy
  rw [lt_iff_key] at h h'
  apply alike_of_key_eq
  omega

theorem lt_asymm {x y : Float32} (h : x < y) : ¬ y < x := by
  rw [lt_iff_key] at h ⊢
  omega

/-- The larger and the smaller of two numbers are chosen in the same way: `p` prefers the second
number where the first comes first, and `q` where their places are exchanged. -/
theorem choice_comm {x y : Float32} {p q : Prop} [Decidable p] [Decidable q]
    (hp : p → x.isNaN = false ∧ y.isNaN = false) (hq : q → x.isNaN = false ∧ y.isNaN = false)
    (hpq : p → ¬ q) (alike : ¬ x.isNaN = true → ¬ y.isNaN = true → ¬ p → ¬ q → Alike x y) :
    Alike (if x.isNaN then y else if p then y else x)
      (if y.isNaN then x else if q then x else y) := by
  by_cases hx : x.isNaN = true
  · have hnq : ¬ q := fun h ↦ Bool.eq_false_iff.1 (hq h).1 hx
    by_cases hy : y.isNaN = true
    · rw [if_pos hx, if_pos hy]
      exact alike_of_isNaN hy hx
    · rw [if_pos hx, if_neg hy, if_neg hnq]
      exact .refl y
  · by_cases hy : y.isNaN = true
    · have hnp : ¬ p := fun h ↦ Bool.eq_false_iff.1 (hp h).2 hy
      rw [if_neg hx, if_neg hnp, if_pos hy]
      exact .refl x
    · rw [if_neg hx, if_neg hy]
      by_cases h : p
      · rw [if_pos h, if_neg (hpq h)]
        exact .refl y
      · by_cases h' : q
        · rw [if_neg h, if_pos h']
          exact .refl x
        · rw [if_neg h, if_neg h']
          exact alike hx hy h h'

theorem larger_comm (x y : Float32) : Alike (larger x y) (larger y x) :=
  choice_comm not_isNaN_of_lt (fun h ↦ (not_isNaN_of_lt h).symm) lt_asymm alike_of_not_lt

theorem smaller_comm (x y : Float32) : Alike (smaller x y) (smaller y x) :=
  choice_comm (fun h ↦ (not_isNaN_of_lt h).symm) not_isNaN_of_lt lt_asymm
    (fun hx hy h h' ↦ alike_of_not_lt hx hy h' h)

end FaceDecode.Number
