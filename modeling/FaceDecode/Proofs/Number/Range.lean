import FaceDecode.Number.Order
import FaceDecode.Proofs.Number.Arithmetic

namespace FaceDecode.Number

open Float.Model Float.Model.UnpackedFloat

/-- Numbers up to `2 ^ k` can be rounded without leaving the range of the format. -/
def Inside (f : Format) (k : ℤ) : Prop := f.minExponent ≤ k ∧ Room f (k + 1)

instance (f : Format) (k : ℤ) : Decidable (Inside f k) := inferInstanceAs (Decidable (_ ∧ _))

def Within (f : Format) (k : ℤ) (u : UnpackedFloat) : Prop := ∃ x, Stands f u x ∧ |x| ≤ 2 ^ k

variable {f : Format} {u v : UnpackedFloat} {p q x : ℚ} {m : ℕ} {e k l : ℤ} {a : Accuracy}

theorem apply_neg (s : Sign) (n : ℤ) : (-s).apply n = -s.apply n := by
  cases s with
  | negative => exact (neg_neg n).symm
  | positive => rfl

theorem abs_apply (s : Sign) (n : ℕ) : |((s.apply n : ℤ) : ℚ)| = n := by
  cases s with
  | negative => rw [Sign.apply, Int.cast_neg, abs_neg, Int.cast_natCast, Nat.abs_cast]
  | positive => rw [Sign.apply, Int.cast_natCast, Nat.abs_cast]

theorem rational?_neg (u : UnpackedFloat) : rational? u.neg = (rational? u).map (-·) := by
  cases u with
  | zero s => exact congrArg some neg_zero.symm
  | infinity s => rfl
  | notANumber => rfl
  | finite s m e pos =>
    rw [UnpackedFloat.neg, rational?, rational?, apply_neg, Int.cast_neg, neg_mul]
    rfl

theorem InFormat.neg (h : InFormat f u) : InFormat f u.neg := by
  cases h with
  | zero s => exact .zero (-s)
  | finite short least full top => exact .finite short least full top

theorem roundWithAccuracy_signed (s : Sign) :
    roundWithAccuracy f s m e a = roundWithAccuracy f .positive m e a ∨
      roundWithAccuracy f s m e a = (roundWithAccuracy f .positive m e a).neg := by
  cases s with
  | positive => exact .inl rfl
  | negative =>
    right
    simp only [roundWithAccuracy]
    split <;> rfl

theorem sub_eq_add_neg (u v : UnpackedFloat) : u.sub f v = u.add f v.neg := by
  cases u with
  | notANumber => rfl
  | infinity s => cases v <;> rfl
  | zero s => cases v <;> rfl
  | finite s m e pos =>
    cases v with
    | notANumber | infinity t | zero t => rfl
    | finite t n d pos' =>
      rw [UnpackedFloat.neg]
      simp only [UnpackedFloat.sub, UnpackedFloat.add, apply_neg, Int.sub_eq_add_neg]

namespace Within

theorem mono (h : Within f k u) (le : k ≤ l) : Within f l u := by
  obtain ⟨x, made, bound⟩ := h
  exact ⟨x, made, bound.trans (zpow_le_zpow_right₀ one_le_two le)⟩

theorem zero (s : Sign) : Within f k (.zero s) :=
  ⟨0, ⟨rfl, .zero s⟩, by simpa using (two_zpow_pos k).le⟩

theorem neg (h : Within f k u) : Within f k u.neg := by
  obtain ⟨x, made, bound⟩ := h
  refine ⟨-x, ⟨?_, made.inFormat.neg⟩, by rwa [abs_neg]⟩
  rw [rational?_neg, made.value]
  rfl

theorem signed (h : Within f k u) (same : v = u ∨ v = u.neg) : Within f k v := by
  rcases same with rfl | rfl
  · exact h
  · exact h.neg

theorem of_rounded (made : Stands f u (rounded f x)) (hx : 0 ≤ x) (bound : x ≤ 2 ^ k)
    (inside : Inside f k) : Within f k u := by
  have below := rounded_mono f hx bound
  rw [rounded_two_zpow f inside.1] at below
  exact ⟨_, made, (abs_of_nonneg (rounded_nonneg f hx)).trans_le below⟩

theorem short (bound : x ≤ 2 ^ k) : x < 2 ^ (k + 1) :=
  bound.trans_lt (zpow_lt_zpow_right₀ one_lt_two (lt_add_one k))

theorem roundWithAccuracy (s : Sign) (lies : Lies (x / 2 ^ e) m a) (hx : 0 < x)
    (place : e ≤ lastPlace f x) (bound : x ≤ 2 ^ k) (inside : Inside f k) :
    Within f k (.roundWithAccuracy f s m e a) := by
  have made := stands_roundWithAccuracy lies hx place (short bound) inside.2
  exact (of_rounded made hx.le bound inside).signed (roundWithAccuracy_signed s)

theorem round (s : Sign) (pos : 0 < m) (bound : (m : ℚ) * 2 ^ e ≤ 2 ^ k) (inside : Inside f k) :
    Within f k (.round f s m e) := by
  have nonneg : (0 : ℚ) ≤ m * 2 ^ e := mul_nonneg (Nat.cast_nonneg m) (two_zpow_pos e).le
  have made := stands_round pos (short bound) inside.2
  exact (of_rounded made nonneg bound inside).signed (roundWithAccuracy_signed s)

theorem normalize (s : Sign) {n : ℤ} (bound : |(n : ℚ) * 2 ^ e| ≤ 2 ^ k) (inside : Inside f k) :
    Within f k (.normalize f n e s) := by
  rw [abs_mul, abs_of_pos (two_zpow_pos e), ← Int.cast_abs, Int.abs_eq_natAbs, Int.cast_natCast] at bound
  rw [UnpackedFloat.normalize]
  rcases lt_trichotomy n 0 with negative | rfl | positive
  · rw [Int.compare_eq_lt.2 negative]
    have size : (-n).toNat = n.natAbs := by omega
    rw [← size] at bound
    exact round .negative (by omega) bound inside
  · exact zero s
  · rw [Int.compare_eq_gt.2 positive]
    have size : n.toNat = n.natAbs := by omega
    rw [← size] at bound
    exact round .positive (by omega) bound inside

theorem finite_cases (h : Within f k u) : (∃ s, u = .zero s) ∨
    ∃ s m e pos, u = .finite s m e pos ∧ InFormat f u ∧ (m : ℚ) * 2 ^ e ≤ 2 ^ k := by
  obtain ⟨x, made, bound⟩ := h
  cases u with
  | notANumber | infinity s => cases made.value
  | zero s => exact .inl ⟨s, rfl⟩
  | finite s m e pos =>
    obtain rfl := Option.some_inj.1 made.value
    rw [abs_mul, abs_apply, abs_of_pos (two_zpow_pos e)] at bound
    exact .inr ⟨s, m, e, pos, rfl, made.inFormat, bound⟩

theorem add (hu : Within f k u) (hv : Within f k v) (inside : Inside f (k + 1)) :
    Within f (k + 1) (u.add f v) := by
  have wider : k ≤ k + 1 := le_add_of_nonneg_right zero_le_one
  rcases hu.finite_cases with ⟨s, rfl⟩ | ⟨s, m, e, pos, rfl, -, below⟩
  · rcases hv.finite_cases with ⟨t, rfl⟩ | ⟨t, n, d, pos', rfl, -, -⟩
    · simp only [UnpackedFloat.add]
      split <;> exact zero _
    · exact hv.mono wider
  · rcases hv.finite_cases with ⟨t, rfl⟩ | ⟨t, n, d, pos', rfl, -, below'⟩
    · exact hu.mono wider
    · rw [← decreaseExponent_value_of_le m (min_le_left e d)] at below
      rw [← decreaseExponent_value_of_le n (min_le_right e d)] at below'
      refine normalize .positive ?_ inside
      rw [abs_mul, abs_of_pos (two_zpow_pos _), Int.cast_add]
      refine (mul_le_mul_of_nonneg_right (abs_add_le _ _) (two_zpow_pos _).le).trans ?_
      rw [abs_apply, abs_apply, add_mul, zpow_add_one₀ two_ne_zero, mul_two]
      exact add_le_add below below'

theorem sub (hu : Within f k u) (hv : Within f k v) (inside : Inside f (k + 1)) :
    Within f (k + 1) (u.sub f v) := by
  rw [sub_eq_add_neg]
  exact hu.add hv.neg inside

end Within

theorem mul_place {s t : Sign} {n : ℕ} {d : ℤ} {pos : 0 < m} {pos' : 0 < n}
    (hu : InFormat f (.finite s m e pos)) (hv : InFormat f (.finite t n d pos')) :
    e + d ≤ lastPlace f ((m * n : ℕ) * 2 ^ (e + d)) := by
  have product : 0 < m * n := Nat.mul_pos pos pos'
  rw [lastPlace, ← totalExponent_scaled product, totalExponent, Format.targetExponent]
  cases hu with
  | finite _ _ full _ =>
    cases hv with
    | finite _ _ full' _ =>
      by_cases long : 2 ^ f.mantissaBitsWithoutImplicit ≤ m * n
      · have := (Nat.le_log2 product.ne').2 long
        rw [Format.mantissaBits]
        omega
      · -- Neither factor has all its digits, so both are among the smallest numbers.
        have least := full.resolve_left fun h ↦ long (h.trans (Nat.le_mul_of_pos_right m pos'))
        have least' := full'.resolve_left fun h ↦ long (h.trans (Nat.le_mul_of_pos_left n pos))
        have negative : f.minExponent ≤ 0 := by
          have := f.hm
          rw [minExponent_eq]
          omega
        omega

theorem Within.mul (hu : Within f k u) (hv : Within f l v) (inside : Inside f (k + l)) :
    Within f (k + l) (u.mul f v) := by
  rcases hu.finite_cases with ⟨s, rfl⟩ | ⟨s, m, e, pos, rfl, format, below⟩
  · rcases hv.finite_cases with ⟨t, rfl⟩ | ⟨t, n, d, pos', rfl, -, -⟩ <;> exact .zero _
  · rcases hv.finite_cases with ⟨t, rfl⟩ | ⟨t, n, d, pos', rfl, format', below'⟩
    · exact .zero _
    · have product : ((m * n : ℕ) : ℚ) * 2 ^ (e + d) = m * 2 ^ e * (n * 2 ^ d) := by
        rw [zpow_add₀ two_ne_zero]
        push_cast
        ring
      refine .roundWithAccuracy (s * t) ?_ ?_ (mul_place format format') ?_ inside
      · exact mul_div_cancel_right₀ _ (two_zpow_pos _).ne'
      · exact mul_pos (by exact_mod_cast Nat.mul_pos pos pos') (two_zpow_pos _)
      · rw [product, zpow_add₀ two_ne_zero]
        exact mul_le_mul below below' (by positivity) (two_zpow_pos k).le

theorem Within.div (hu : Within f k u) (hv : rational? v = some q) (hq : 1 ≤ q)
    (inside : Inside f k) : Within f k (u.div f v) := by
  have positive : 0 < q := one_pos.trans_le hq
  rcases hu.finite_cases with ⟨s, rfl⟩ | ⟨s, m, e, pos, rfl, -, below⟩
  · obtain ⟨n, d, pos', rfl, -⟩ := finite_of_rational? hv positive
    exact .zero _
  · have nonneg : (0 : ℚ) ≤ m * 2 ^ e := mul_nonneg (Nat.cast_nonneg m) (two_zpow_pos e).le
    have quotient := (div_le_self nonneg hq).trans below
    obtain ⟨n, d, pos', rfl, -⟩ := finite_of_rational? hv positive
    have made : Stands f (.div f (.finite .positive m e pos) (.finite .positive n d pos')) _ :=
      stands_div rfl hv nonneg positive (Within.short quotient) inside.2
    have bounded := Within.of_rounded made (div_nonneg nonneg positive.le) quotient inside
    exact bounded.signed (roundWithAccuracy_signed (s / Sign.positive))

theorem isNaN_roundWithAccuracy (s : Sign) :
    (UnpackedFloat.roundWithAccuracy f s m e a).isNaN = false := by
  simp only [UnpackedFloat.roundWithAccuracy]
  split <;> rfl

theorem isNaN_div (hu : rational? u = some p) (hv : rational? v = some q) (hq : q ≠ 0) :
    (u.div f v).isNaN = false := by
  cases v with
  | notANumber | infinity t => cases hv
  | zero t =>
    cases hv
    exact absurd rfl hq
  | finite t n d pos' =>
    cases u with
    | notANumber | infinity s => cases hu
    | zero s => rfl
    | finite s m e pos => exact isNaN_roundWithAccuracy (s / t)

/-- A single precision number that is no further than `2 ^ k` from zero. -/
def Bounded (k : ℤ) (x : Float32) : Prop := ∃ q ∈ value? x, |q| ≤ 2 ^ k

instance (k : ℤ) (x : Float32) : Decidable (Bounded k x) :=
  inferInstanceAs (Decidable (∃ q ∈ value? x, _))

theorem Bounded.within {x : Float32} (h : Bounded k x) : Within .binary32 k (parts x) := by
  obtain ⟨q, value, bound⟩ := h
  exact ⟨q, stands_parts value, bound⟩

theorem Within.bounded (h : Within .binary32 k u) : Bounded k (.ofModel (Float32.Model.pack u)) := by
  obtain ⟨q, made, bound⟩ := h
  exact ⟨q, value?_of_stands made, bound⟩

namespace Bounded

variable {x y : Float32}

theorem mono (h : Bounded k x) (le : k ≤ l) : Bounded l x := by
  obtain ⟨q, value, bound⟩ := h
  exact ⟨q, value, bound.trans (zpow_le_zpow_right₀ one_le_two le)⟩

theorem zero : Bounded k 0 := ⟨0, by decide +kernel, by simpa using (two_zpow_pos k).le⟩

theorem add (hx : Bounded k x) (hy : Bounded k y) (inside : Inside .binary32 (k + 1)) :
    Bounded (k + 1) (x + y) :=
  (hx.within.add hy.within inside).bounded

theorem sub (hx : Bounded k x) (hy : Bounded k y) (inside : Inside .binary32 (k + 1)) :
    Bounded (k + 1) (x - y) :=
  (hx.within.sub hy.within inside).bounded

theorem mul (hx : Bounded k x) (hy : Bounded l y) (inside : Inside .binary32 (k + l)) :
    Bounded (k + l) (x * y) :=
  (hx.within.mul hy.within inside).bounded

theorem half (hx : Bounded k x) (inside : Inside .binary32 k) : Bounded k (x / 2) := by
  have two : value? 2 = some 2 := by decide +kernel
  exact (hx.within.div two one_le_two inside).bounded

theorem larger (hx : Bounded k x) (hy : Bounded k y) : Bounded k (larger x y) := by
  unfold Number.larger
  split_ifs <;> assumption

theorem smaller (hx : Bounded k x) (hy : Bounded k y) : Bounded k (smaller x y) := by
  unfold Number.smaller
  split_ifs <;> assumption

theorem isNaN_div (hx : Bounded k x) (hy : Bounded l y) (covered : ¬ y ≤ 0) :
    (x / y).isNaN = false := by
  obtain ⟨p, hp, -⟩ := hx
  obtain ⟨q, hq, -⟩ := hy
  have zero : value? 0 = some 0 := by decide +kernel
  refine isNaN_unpack_pack (Number.isNaN_div hp hq ?_)
  rintro rfl
  exact covered ((le_iff_value hq zero).2 le_rfl)

end Bounded

end FaceDecode.Number
