import Mathlib.Algebra.Order.Field.Power
import Mathlib.Algebra.Order.Floor.Ring
import Mathlib.Data.Int.Log
import Mathlib.Data.Rat.Floor
import Mathlib.Tactic.FieldSimp
import Mathlib.Tactic.Linarith
import Mathlib.Tactic.Ring

namespace FaceDecode.Number

open Float.Model

/-- The nearest whole number, a tie going to the even one. -/
def nearestEven (x : ℚ) : ℤ :=
  if Int.fract x < 1 / 2 then ⌊x⌋
  else if 1 / 2 < Int.fract x then ⌊x⌋ + 1
  else ⌊x⌋ + ⌊x⌋ % 2

theorem nearestEven_bounds (x : ℚ) : ⌊x⌋ ≤ nearestEven x ∧ nearestEven x ≤ ⌊x⌋ + 1 := by
  unfold nearestEven
  split_ifs <;> omega

@[simp]
theorem nearestEven_intCast (k : ℤ) : nearestEven k = k := by
  simp [nearestEven]

@[simp]
theorem nearestEven_zero : nearestEven 0 = 0 := nearestEven_intCast 0

theorem nearestEven_mono {x y : ℚ} (h : x ≤ y) : nearestEven x ≤ nearestEven y := by
  obtain below | same := (Int.floor_mono h).lt_or_eq
  · exact (nearestEven_bounds x).2.trans (below.trans_le (nearestEven_bounds y).1)
  · have rests : Int.fract x ≤ Int.fract y := by
      rw [Int.fract, Int.fract, same]
      exact sub_le_sub_right h _
    unfold nearestEven
    rw [same]
    split_ifs <;> first | omega | linarith

theorem abs_nearestEven_sub_le (x : ℚ) : |nearestEven x - x| ≤ 1 / 2 := by
  have whole := Int.floor_add_fract x
  have nonneg := Int.fract_nonneg x
  have below := Int.fract_lt_one x
  unfold nearestEven
  rw [abs_le]
  split_ifs with low high
  · constructor <;> linarith
  · push_cast
    constructor <;> linarith
  · have parity : ⌊x⌋ % 2 = 0 ∨ ⌊x⌋ % 2 = 1 := by omega
    obtain even | odd := parity
    · rw [even, add_zero]
      constructor <;> linarith
    · rw [odd]
      push_cast
      constructor <;> linarith

variable (f : Format) {x y : ℚ} {k : ℤ}

/-- The place of the last digit that is kept. -/
def lastPlace (x : ℚ) : ℤ := f.targetExponent (Int.log 2 x + 1)

theorem targetExponent_mono {a b : ℤ} (h : a ≤ b) : f.targetExponent a ≤ f.targetExponent b :=
  max_le_max_right _ (sub_le_sub_right h _)

theorem lastPlace_mono (hx : 0 < x) (h : x ≤ y) : lastPlace f x ≤ lastPlace f y :=
  targetExponent_mono f (add_le_add_left (Int.log_mono_right hx h) 1)

theorem lastPlace_le (hx : 0 < x) (short : x < 2 ^ k) : lastPlace f x ≤ f.targetExponent k := by
  have digits : Int.log 2 x < k :=
    (Int.lt_zpow_iff_log_lt one_lt_two hx).1 (by exact_mod_cast short)
  exact targetExponent_mono f digits

/-- Rounding to nearest, with no upper end of the range. -/
def rounded (x : ℚ) : ℚ := nearestEven (x / 2 ^ lastPlace f x) * 2 ^ lastPlace f x

@[simp]
theorem rounded_zero : rounded f 0 = 0 := by
  simp [rounded]

theorem one_le_mantissaBits : 1 ≤ f.mantissaBits :=
  Nat.le_add_right 1 f.mantissaBitsWithoutImplicit

theorem two_zpow_pos (k : ℤ) : (0 : ℚ) < 2 ^ k := zpow_pos two_pos k

theorem exists_two_zpow_div {e : ℤ} (h : e ≤ k) : ∃ n : ℤ, (2 : ℚ) ^ k / 2 ^ e = n := by
  refine ⟨2 ^ (k - e).toNat, ?_⟩
  rw [← zpow_sub₀ two_ne_zero]
  push_cast
  rw [← zpow_natCast, Int.toNat_of_nonneg (by omega)]

theorem lastPlace_two_zpow (h : f.minExponent ≤ k) : lastPlace f (2 ^ k) ≤ k := by
  have digits := one_le_mantissaBits f
  have size : Int.log 2 ((2 : ℚ) ^ k) = k := by
    simpa using Int.log_zpow (R := ℚ) (b := 2) one_lt_two k
  rw [lastPlace, size]
  apply max_le _ h
  omega

theorem rounded_scaled (m : ℤ) (place : lastPlace f (m * 2 ^ k) ≤ k) :
    rounded f (m * 2 ^ k) = m * 2 ^ k := by
  obtain ⟨n, hn⟩ := exists_two_zpow_div place
  have whole : (m : ℚ) * 2 ^ k / 2 ^ lastPlace f (m * 2 ^ k) = (m * n : ℤ) := by
    rw [mul_div_assoc, hn, Int.cast_mul]
  rw [rounded, whole, nearestEven_intCast, ← whole, div_mul_cancel₀ _ (two_zpow_pos _).ne']

theorem rounded_two_zpow (h : f.minExponent ≤ k) : rounded f (2 ^ k) = 2 ^ k := by
  have scaled := rounded_scaled f (k := k) 1
  rw [Int.cast_one, one_mul] at scaled
  exact scaled (lastPlace_two_zpow f h)

theorem rounded_natCast {n : ℕ} (least : f.minExponent ≤ 0) (short : n < 2 ^ f.mantissaBits) :
    rounded f n = n := by
  have scaled := rounded_scaled f (k := 0) n
  rw [zpow_zero, mul_one, Int.cast_natCast] at scaled
  apply scaled
  have digits : Nat.log 2 n < f.mantissaBits :=
    Nat.log_lt_of_lt_pow' (Nat.one_le_iff_ne_zero.1 (one_le_mantissaBits f)) short
  rw [lastPlace, Int.log_natCast, Format.targetExponent]
  omega

theorem rounded_le_two_zpow (place : lastPlace f x ≤ k) (h : x ≤ 2 ^ k) : rounded f x ≤ 2 ^ k := by
  obtain ⟨n, hn⟩ := exists_two_zpow_div place
  have near : nearestEven (x / 2 ^ lastPlace f x) ≤ n := by
    rw [← nearestEven_intCast n, ← hn]
    exact nearestEven_mono (div_le_div_of_nonneg_right h (two_zpow_pos _).le)
  rw [rounded, ← le_div_iff₀ (two_zpow_pos _), hn]
  exact_mod_cast near

theorem two_zpow_le_rounded (place : lastPlace f x ≤ k) (h : 2 ^ k ≤ x) : 2 ^ k ≤ rounded f x := by
  obtain ⟨n, hn⟩ := exists_two_zpow_div place
  have near : n ≤ nearestEven (x / 2 ^ lastPlace f x) := by
    rw [← nearestEven_intCast n, ← hn]
    exact nearestEven_mono (div_le_div_of_nonneg_right h (two_zpow_pos _).le)
  rw [rounded, ← div_le_iff₀ (two_zpow_pos _), hn]
  exact_mod_cast near

theorem lt_two_zpow_log (x : ℚ) : x < 2 ^ (Int.log 2 x + 1) := by
  exact_mod_cast Int.lt_zpow_succ_log_self one_lt_two x

theorem two_zpow_log_le (hx : 0 < x) : 2 ^ Int.log 2 x ≤ x := by
  exact_mod_cast Int.zpow_log_le_self one_lt_two hx

theorem le_two_zpow_log (below : lastPlace f x < lastPlace f y) : x ≤ 2 ^ Int.log 2 y := by
  have logs : Int.log 2 x + 1 ≤ Int.log 2 y := by
    by_contra near
    have : lastPlace f y ≤ lastPlace f x := targetExponent_mono f (by omega)
    omega
  exact (lt_two_zpow_log x).le.trans (zpow_le_zpow_right₀ one_le_two logs)

theorem rounded_mono (hx : 0 ≤ x) (h : x ≤ y) : rounded f x ≤ rounded f y := by
  obtain rfl | hx := hx.eq_or_lt
  · have near : 0 ≤ nearestEven (y / 2 ^ lastPlace f y) := by
      rw [← nearestEven_zero]
      exact nearestEven_mono (div_nonneg h (two_zpow_pos _).le)
    rw [rounded_zero]
    exact mul_nonneg (by exact_mod_cast near) (two_zpow_pos _).le
  obtain below | same := (lastPlace_mono f hx h).lt_or_eq
  · have place : lastPlace f y ≤ Int.log 2 y := by
      have digits := one_le_mantissaBits f
      have least : f.minExponent ≤ lastPlace f x := le_max_right _ _
      have whole : lastPlace f y = max (Int.log 2 y + 1 - f.mantissaBits) f.minExponent := rfl
      omega
    exact (rounded_le_two_zpow f (below.le.trans place) (le_two_zpow_log f below)).trans
      (two_zpow_le_rounded f place (two_zpow_log_le (hx.trans_le h)))
  · rw [rounded, rounded, same]
    apply mul_le_mul_of_nonneg_right _ (two_zpow_pos _).le
    exact_mod_cast nearestEven_mono (div_le_div_of_nonneg_right h (two_zpow_pos _).le)

theorem rounded_nonneg (hx : 0 ≤ x) : 0 ≤ rounded f x := by
  simpa using rounded_mono f le_rfl hx

theorem rounded_le_one (least : f.minExponent ≤ 0) (hx : 0 ≤ x) (h : x ≤ 1) : rounded f x ≤ 1 := by
  have one := rounded_two_zpow f least
  rw [zpow_zero] at one
  exact one ▸ rounded_mono f hx h

theorem abs_rounded_sub_le_half (x : ℚ) : |rounded f x - x| ≤ 2 ^ lastPlace f x / 2 := by
  have scale := two_zpow_pos (lastPlace f x)
  have near := mul_le_mul_of_nonneg_right (abs_nearestEven_sub_le (x / 2 ^ lastPlace f x)) scale.le
  rw [← abs_of_pos scale, ← abs_mul, abs_of_pos scale, sub_mul, div_mul_cancel₀ _ scale.ne'] at near
  exact near.trans_eq (by ring)

theorem abs_rounded_sub_le (hx : 0 ≤ x) (short : x < 2 ^ k) :
    |rounded f x - x| ≤ 2 ^ f.targetExponent k / 2 := by
  obtain rfl | hx := hx.eq_or_lt
  · rw [rounded_zero, sub_zero, abs_zero]
    exact (half_pos (two_zpow_pos _)).le
  apply (abs_rounded_sub_le_half f x).trans
  apply div_le_div_of_nonneg_right _ two_pos.le
  exact zpow_le_zpow_right₀ one_le_two (lastPlace_le f hx short)

/-- Relative to a number that is not below the normal range the error is the same everywhere. -/
theorem abs_rounded_sub_le_mul (normal : (2 : ℚ) ^ (f.minExponent + f.mantissaBits - 1) ≤ x) :
    |rounded f x - x| ≤ x / 2 ^ f.mantissaBits := by
  have hx : 0 < x := (two_zpow_pos _).trans_le normal
  have size : f.minExponent + f.mantissaBits - 1 ≤ Int.log 2 x :=
    (Int.zpow_le_iff_le_log one_lt_two hx).1 (by exact_mod_cast normal)
  have place : lastPlace f x = Int.log 2 x + 1 - f.mantissaBits := max_eq_left (by omega)
  calc
    |rounded f x - x| ≤ 2 ^ lastPlace f x / 2 := abs_rounded_sub_le_half f x
    _ = 2 ^ Int.log 2 x / 2 ^ f.mantissaBits := by
      rw [place, zpow_sub₀ two_ne_zero, zpow_add_one₀ two_ne_zero, zpow_natCast]
      ring
    _ ≤ x / 2 ^ f.mantissaBits := div_le_div_of_nonneg_right (two_zpow_log_le hx) (by positivity)

end FaceDecode.Number
