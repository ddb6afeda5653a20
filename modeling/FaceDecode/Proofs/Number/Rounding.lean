import FaceDecode.Proofs.Number.Nearest
import FaceDecode.Proofs.Number.Value

namespace FaceDecode.Number

open Float.Model Float.Model.UnpackedFloat

/-- Where a number lies between its whole part and the next whole number. -/
def Lies (x : ℚ) (m : ℕ) : Accuracy → Prop
  | .exact => x = m
  | .inexact .lt => m < x ∧ x < m + 1 / 2
  | .inexact .eq => x = m + 1 / 2
  | .inexact .gt => m + 1 / 2 < x ∧ x < m + 1

namespace Lies

variable {x : ℚ} {m : ℕ} {a : Accuracy}

theorem bounds (h : Lies x m a) : m ≤ x ∧ x < m + 1 := by
  cases a with
  | exact =>
    rw [Lies] at h
    constructor <;> linarith
  | inexact o => cases o <;> simp only [Lies] at h <;> constructor <;> linarith

theorem roundToNearestEven (h : Lies x m a) : a.roundToNearestEven m = nearestEven x := by
  have whole : ⌊x⌋ = m := Int.floor_eq_iff.2 (by exact_mod_cast h.bounds)
  have rest : Int.fract x = x - m := by
    rw [Int.fract, whole, Int.cast_natCast]
  rw [nearestEven, whole, rest]
  cases a with
  | exact =>
    rw [Lies] at h
    rw [if_pos (by linarith)]
    rfl
  | inexact o =>
    cases o <;> simp only [Lies] at h
    case lt =>
      rw [if_pos (by linarith)]
      rfl
    case eq =>
      rw [if_neg (by linarith), if_neg (by linarith)]
      rfl
    case gt =>
      rw [if_neg (by linarith), if_pos (by linarith)]
      rfl

theorem shiftRightOne {em : ExtendedMantissa} (h : Lies x em.mantissa em.accuracy) :
    Lies (x / 2) em.shiftRightOne.mantissa em.shiftRightOne.accuracy := by
  obtain ⟨m, round, sticky⟩ := em
  have digits : (m : ℚ) = 2 * (m / 2 : ℕ) + (m % 2 : ℕ) := by
    exact_mod_cast (Nat.div_add_mod m 2).symm
  obtain parity | parity := Nat.mod_two_eq_zero_or_one m
  all_goals
    rw [parity] at digits
    push_cast at digits
    cases round <;> cases sticky <;>
      simp only [Lies, ExtendedMantissa.accuracy, ExtendedMantissa.shiftRightOne, parity,
        Nat.reduceBNe, Bool.or_false, Bool.or_true, Bool.or_self] at h ⊢ <;>
      (try constructor) <;> linarith

theorem shiftRight {em : ExtendedMantissa} (h : Lies x em.mantissa em.accuracy) (n : ℕ) :
    Lies (x / 2 ^ n) (em >>> n).mantissa (em >>> n).accuracy := by
  induction n with
  | zero =>
    rw [pow_zero, div_one]
    exact h
  | succ n ih =>
    rw [pow_succ, ← div_div]
    exact ih.shiftRightOne

end Lies

/-- A number of a format, and its value. -/
structure Stands (f : Format) (u : UnpackedFloat) (x : ℚ) : Prop where
  value : rational? u = some x
  inFormat : InFormat f u

/-- The exponents of a format go well beyond what numbers below `2 ^ k` need. -/
def Room (f : Format) (k : ℤ) : Prop :=
  f.targetExponent k < f.exponentBias - f.mantissaBitsWithoutImplicit

instance (f : Format) (k : ℤ) : Decidable (Room f k) := inferInstanceAs (Decidable (_ < _))

variable {f : Format} {x : ℚ} {m : ℕ} {e k : ℤ} {a : Accuracy}

theorem totalExponent_eq (pos : 0 < m) (low : m ≤ x / 2 ^ e) (high : x / 2 ^ e < m + 1) :
    totalExponent m e = Int.log 2 x + 1 := by
  rw [le_div_iff₀ (two_zpow_pos e)] at low
  rw [div_lt_iff₀ (two_zpow_pos e)] at high
  have hx : 0 < x := lt_of_lt_of_le (mul_pos (by exact_mod_cast pos) (two_zpow_pos e)) low
  have least : (2 : ℚ) ^ (m.log2 : ℤ) ≤ m := by exact_mod_cast Nat.log2_self_le pos.ne'
  have most : (m : ℚ) + 1 ≤ 2 ^ (m.log2 + 1 : ℤ) := by exact_mod_cast Nat.lt_log2_self
  apply le_antisymm
  · rw [totalExponent, add_right_comm, add_le_add_iff_right, ← Int.zpow_le_iff_le_log one_lt_two hx,
      Nat.cast_ofNat, zpow_add₀ two_ne_zero]
    exact (mul_le_mul_of_nonneg_right least (two_zpow_pos e).le).trans low
  · rw [Int.add_one_le_iff, ← Int.lt_zpow_iff_log_lt one_lt_two hx, totalExponent, Nat.cast_ofNat,
      zpow_add₀ two_ne_zero]
    exact high.trans_le (mul_le_mul_of_nonneg_right most (two_zpow_pos e).le)

theorem totalExponent_scaled (pos : 0 < m) (e : ℤ) :
    totalExponent m e = Int.log 2 ((m : ℚ) * 2 ^ e) + 1 := by
  have quotient : (m : ℚ) * 2 ^ e / 2 ^ e = m := mul_div_cancel_right₀ _ (two_zpow_pos e).ne'
  exact totalExponent_eq pos quotient.ge (quotient.trans_lt (lt_add_one _))

theorem targetExponent_eq (low : m ≤ x / 2 ^ e) (high : x / 2 ^ e < m + 1) (hx : 0 < x)
    (place : e ≤ lastPlace f x) :
    f.targetExponent (totalExponent m e) = lastPlace f x := by
  obtain rfl | pos := Nat.eq_zero_or_pos m
  · have small : Int.log 2 x < e := by
      apply (Int.lt_zpow_iff_log_lt one_lt_two hx).1
      rw [Nat.cast_zero, zero_add, div_lt_one (two_zpow_pos e)] at high
      exact_mod_cast high
    have digits := one_le_mantissaBits f
    have none : totalExponent 0 e = 1 + e := by simp [totalExponent]
    rw [none]
    unfold lastPlace Format.targetExponent at *
    omega
  · rw [totalExponent_eq pos low high, lastPlace]

theorem exists_shiftToTargetExponent (lies : Lies (x / 2 ^ e) m a) (hx : 0 < x)
    (place : e ≤ lastPlace f x) :
    ∃ em, shiftToTargetExponent f m e a = (em, lastPlace f x) ∧
      em.roundedMantissa = nearestEven (x / 2 ^ lastPlace f x) := by
  obtain ⟨n, hn⟩ := Int.le.dest place
  have initial : Lies (x / 2 ^ e) (ExtendedMantissa.ofMantissaAndAccuracy m a).mantissa
      (ExtendedMantissa.ofMantissaAndAccuracy m a).accuracy := by
    cases a with
    | exact => exact lies
    | inexact o => cases o <;> exact lies
  have shifted := initial.shiftRight n
  rw [div_div, ← zpow_natCast, ← zpow_add₀ two_ne_zero, hn] at shifted
  have amount : (lastPlace f x - e).toNat = n := by omega
  refine ⟨ExtendedMantissa.ofMantissaAndAccuracy m a >>> n, ?_, shifted.roundToNearestEven⟩
  rw [shiftToTargetExponent, targetExponent_eq lies.bounds.1 lies.bounds.2 hx place,
    shiftToExponent, amount, hn]

/-- The rounded significand has at most one digit too many, and then it is a power of two. -/
theorem rounded_significand (f : Format) (hx : 0 < x) :
    nearestEven (x / 2 ^ lastPlace f x) ≤ 2 ^ f.mantissaBits ∧
      (2 ^ f.mantissaBitsWithoutImplicit ≤ nearestEven (x / 2 ^ lastPlace f x) ∨
        lastPlace f x = f.minExponent) := by
  have whole : lastPlace f x = max (Int.log 2 x + 1 - f.mantissaBits) f.minExponent := rfl
  have bits : (f.mantissaBits : ℤ) = 1 + f.mantissaBitsWithoutImplicit := by
    rw [Format.mantissaBits, Nat.cast_add, Nat.cast_one]
  constructor
  · rw [← nearestEven_intCast (2 ^ f.mantissaBits)]
    apply nearestEven_mono
    push_cast
    rw [div_le_iff₀ (two_zpow_pos _), ← zpow_natCast, ← zpow_add₀ two_ne_zero]
    exact (lt_two_zpow_log x).le.trans (zpow_le_zpow_right₀ one_le_two (by omega))
  · by_cases least : lastPlace f x = f.minExponent
    · exact .inr least
    · left
      rw [← nearestEven_intCast (2 ^ f.mantissaBitsWithoutImplicit)]
      apply nearestEven_mono
      push_cast
      rw [le_div_iff₀ (two_zpow_pos _), ← zpow_natCast, ← zpow_add₀ two_ne_zero]
      exact (zpow_le_zpow_right₀ one_le_two (by omega)).trans (two_zpow_log_le hx)

theorem shiftToTargetExponent_short {r : ℕ} {t : ℤ} (short : r < 2 ^ f.mantissaBits)
    (least : f.minExponent ≤ t) : shiftToTargetExponent f r t .exact = (⟨r, false, false⟩, t) := by
  have digits : r.log2 + 1 ≤ f.mantissaBits := by
    obtain rfl | pos := Nat.eq_zero_or_pos r
    · exact one_le_mantissaBits f
    · exact (Nat.log2_lt pos.ne').2 short
  have amount : (f.targetExponent (totalExponent r t) - t).toNat = 0 := by
    rw [totalExponent, Format.targetExponent]
    omega
  rw [shiftToTargetExponent, shiftToExponent, amount, Nat.cast_zero, add_zero]
  rfl

theorem shiftToTargetExponent_carry {t : ℤ} (least : f.minExponent ≤ t) :
    ∃ em, shiftToTargetExponent f (2 ^ f.mantissaBits) t .exact = (em, t + 1) ∧
      em.mantissa = 2 ^ f.mantissaBitsWithoutImplicit := by
  have amount : (f.targetExponent (totalExponent (2 ^ f.mantissaBits) t) - t).toNat = 1 := by
    rw [totalExponent, Nat.log2_two_pow, Format.targetExponent]
    omega
  refine ⟨_, by rw [shiftToTargetExponent, shiftToExponent, amount, Nat.cast_one], ?_⟩
  change 2 ^ f.mantissaBits / 2 = _
  rw [two_pow_mantissaBits, Nat.mul_div_cancel_left _ two_pos]

theorem stands_of_shifts {em em' : ExtendedMantissa} {t t' : ℤ}
    (first : shiftToTargetExponent f m e a = (em, t))
    (second : shiftToTargetExponent f em.roundedMantissa t .exact = (em', t'))
    (short : em'.mantissa < 2 ^ f.mantissaBits) (least : f.minExponent ≤ t')
    (full : 2 ^ f.mantissaBitsWithoutImplicit ≤ em'.mantissa ∨ t' = f.minExponent)
    (top : t' ≤ f.exponentBias - f.mantissaBitsWithoutImplicit) :
    Stands f (roundWithAccuracy f .positive m e a) (em'.mantissa * 2 ^ t') := by
  by_cases zero : em'.mantissa = 0
  · simp only [roundWithAccuracy, first, second, dif_pos zero]
    rw [zero, Nat.cast_zero, zero_mul]
    exact ⟨rfl, .zero _⟩
  · simp only [roundWithAccuracy, first, second, dif_neg zero]
    exact ⟨rfl, .finite short least full top⟩

theorem stands_roundWithAccuracy (lies : Lies (x / 2 ^ e) m a) (hx : 0 < x)
    (place : e ≤ lastPlace f x) (short : x < 2 ^ k) (room : Room f k) :
    Stands f (roundWithAccuracy f .positive m e a) (rounded f x) := by
  obtain ⟨em, first, near⟩ := exists_shiftToTargetExponent lies hx place
  have least : f.minExponent ≤ lastPlace f x := le_max_right _ _
  have top := lastPlace_le f hx short
  unfold Room at room
  obtain ⟨few, full⟩ := rounded_significand f hx
  rw [rounded, ← near, Int.cast_natCast]
  rw [← near] at few full
  norm_cast at few full
  -- Rounding up to one digit too many leaves only zeros behind it, so the second shift is exact.
  obtain carry | few := few.eq_or_lt
  · obtain ⟨em', second, mantissa⟩ := shiftToTargetExponent_carry least
    rw [← carry] at second
    have half : em'.mantissa < 2 ^ f.mantissaBits := by
      rw [mantissa, two_pow_mantissaBits]
      have := Nat.two_pow_pos f.mantissaBitsWithoutImplicit
      omega
    have same : (em.roundedMantissa : ℚ) * 2 ^ lastPlace f x =
        em'.mantissa * 2 ^ (lastPlace f x + 1) := by
      rw [carry, mantissa, two_pow_mantissaBits, zpow_add_one₀ two_ne_zero]
      push_cast
      ring
    rw [same]
    exact stands_of_shifts first second half (by omega) (.inl mantissa.ge) (by omega)
  · have second := shiftToTargetExponent_short few least
    exact stands_of_shifts first second few least full (by omega)

theorem decreaseExponent_value (m : ℕ) (e t : ℤ) :
    ((decreaseExponent m e t).1 : ℚ) * 2 ^ (decreaseExponent m e t).2 = m * 2 ^ e := by
  rw [decreaseExponent, Nat.shiftLeft_eq, zpow_sub₀ two_ne_zero, zpow_natCast]
  push_cast
  field_simp

theorem decreaseExponent_value_of_le (m : ℕ) {e t : ℤ} (h : t ≤ e) :
    ((decreaseExponent m e t).1 : ℚ) * 2 ^ t = m * 2 ^ e := by
  have low : (decreaseExponent m e t).2 = t := by
    rw [decreaseExponent]
    omega
  rw [← decreaseExponent_value m e t, low]

theorem stands_round (pos : 0 < m) (short : (m : ℚ) * 2 ^ e < 2 ^ k) (room : Room f k) :
    Stands f (.round f .positive m e) (rounded f (m * 2 ^ e)) := by
  have hx : (0 : ℚ) < m * 2 ^ e := mul_pos (by exact_mod_cast pos) (two_zpow_pos e)
  have target : f.targetExponent (totalExponent m e) = lastPlace f (m * 2 ^ e) := by
    rw [totalExponent_scaled pos, lastPlace]
  rw [UnpackedFloat.round, target]
  refine stands_roundWithAccuracy ?_ hx ?_ short room
  · exact (div_eq_iff (two_zpow_pos _).ne').2 (decreaseExponent_value m e _).symm
  · omega

end FaceDecode.Number
