import FaceDecode.Proofs.Number.Rounding

namespace FaceDecode.Number

open Float.Model Float.Model.UnpackedFloat

variable {f : Format} {u v : UnpackedFloat} {p q x : ℚ} {k : ℤ}

theorem finite_of_rational? (h : rational? u = some x) (hx : 0 < x) :
    ∃ m e pos, u = .finite .positive m e pos ∧ x = m * 2 ^ e := by
  cases u with
  | zero s =>
    cases h
    exact absurd hx (lt_irrefl 0)
  | infinity s => cases h
  | notANumber => cases h
  | finite s m e pos =>
    cases h
    cases s with
    | negative =>
      have : (0 : ℚ) < m * 2 ^ e := mul_pos (by exact_mod_cast pos) (two_zpow_pos e)
      simp only [Sign.apply] at hx
      push_cast at hx
      linarith
    | positive => exact ⟨m, e, pos, rfl, rfl⟩

theorem zero_of_rational? (h : rational? u = some 0) : ∃ s, u = .zero s := by
  cases u with
  | zero s => exact ⟨s, rfl⟩
  | infinity s => cases h
  | notANumber => cases h
  | finite s m e pos =>
    rw [rational?, Option.some_inj, mul_eq_zero_iff_right (two_zpow_pos e).ne'] at h
    cases s <;> simp only [Sign.apply] at h <;> norm_cast at h <;> omega

theorem stands_zero (s : Sign) : Stands f (.zero s) (rounded f 0) := by
  rw [rounded_zero]
  exact ⟨rfl, .zero s⟩

theorem Stands.rounded_eq (h : Stands f u x) (hx : 0 ≤ x) : rounded f x = x := by
  obtain rfl | hx := hx.eq_or_lt
  · exact rounded_zero f
  · obtain ⟨m, e, pos, rfl, rfl⟩ := finite_of_rational? h.value hx
    cases h.inFormat with
    | finite short least full top =>
      have digits := (Nat.log2_lt pos.ne').2 short
      have place : lastPlace f ((m : ℤ) * 2 ^ e) ≤ e := by
        rw [Int.cast_natCast, lastPlace, ← totalExponent_scaled pos, totalExponent,
          Format.targetExponent]
        omega
      exact rounded_scaled f m place

theorem stands_nearest (h : rational? u = some x) (hx : 0 ≤ x) (short : x < 2 ^ k) (room : Room f k) :
    Stands f (nearest f u) (rounded f x) := by
  obtain rfl | hx := hx.eq_or_lt
  · obtain ⟨s, rfl⟩ := zero_of_rational? h
    exact stands_zero s
  · obtain ⟨m, e, pos, rfl, rfl⟩ := finite_of_rational? h hx
    exact stands_round pos short room

theorem stands_normalize {m : ℕ} {e : ℤ} (short : (m : ℚ) * 2 ^ e < 2 ^ k) (room : Room f k) :
    Stands f (.normalize f m e .positive) (rounded f (m * 2 ^ e)) := by
  obtain rfl | pos := Nat.eq_zero_or_pos m
  · rw [Nat.cast_zero, Nat.cast_zero, zero_mul]
    exact stands_zero .positive
  · have order : compare (m : ℤ) 0 = .gt := Int.compare_eq_gt.2 (by exact_mod_cast pos)
    rw [UnpackedFloat.normalize, order]
    exact stands_round pos short room

theorem stands_ofNat {n : ℕ} (short : n < 2 ^ 64) (room : Room f 64) :
    Stands f (.ofNat f n) (rounded f n) := by
  have whole : (n : ℚ) * 2 ^ (0 : ℤ) = n := by rw [zpow_zero, mul_one]
  rw [← whole]
  refine stands_normalize ?_ room
  rw [whole]
  exact_mod_cast short

theorem stands_add (hu : Stands f u p) (hv : Stands f v q) (hp : 0 ≤ p) (hq : 0 ≤ q)
    (short : p + q < 2 ^ k) (room : Room f k) :
    Stands f (.add f u v) (rounded f (p + q)) := by
  -- Next to a zero the other number is given back as it stands, so it has to be in the format.
  obtain rfl | hp := hp.eq_or_lt
  · obtain ⟨s, rfl⟩ := zero_of_rational? hu.value
    rw [zero_add]
    obtain rfl | hq := hq.eq_or_lt
    · obtain ⟨t, rfl⟩ := zero_of_rational? hv.value
      cases s <;> cases t <;> exact stands_zero _
    · rw [hv.rounded_eq hq.le]
      obtain ⟨m, e, pos, rfl, -⟩ := finite_of_rational? hv.value hq
      exact hv
  · obtain ⟨m, e, pos, rfl, rfl⟩ := finite_of_rational? hu.value hp
    obtain rfl | hq := hq.eq_or_lt
    · obtain ⟨t, rfl⟩ := zero_of_rational? hv.value
      rw [add_zero, hu.rounded_eq hp.le]
      exact hu
    · obtain ⟨n, e', pos', rfl, rfl⟩ := finite_of_rational? hv.value hq
      let t := min e e'
      have aligned : (((decreaseExponent m e t).1 + (decreaseExponent n e' t).1 : ℕ) : ℚ) * 2 ^ t =
          m * 2 ^ e + n * 2 ^ e' := by
        rw [Nat.cast_add, add_mul, decreaseExponent_value_of_le m (min_le_left e e'),
          decreaseExponent_value_of_le n (min_le_right e e')]
      have sum := stands_normalize (aligned.trans_lt short) room
      rw [aligned] at sum
      exact sum

theorem lies_div (n : ℕ) {d : ℕ} (hd : 0 < d) :
    Lies (n / d) (n / d : ℕ) (accuracyOfFraction (n % d) d) := by
  have scale : (0 : ℚ) < d := by exact_mod_cast hd
  have parts : (n : ℚ) / d = (n / d : ℕ) + (n % d : ℕ) / d := by
    rw [div_eq_iff scale.ne', add_mul, div_mul_cancel₀ _ scale.ne', mul_comm]
    exact_mod_cast (Nat.div_add_mod n d).symm
  have rest : (n % d : ℕ) / (d : ℚ) < 1 := by
    rw [div_lt_one scale]
    exact_mod_cast Nat.mod_lt n hd
  rw [parts, accuracyOfFraction]
  split
  case isTrue exact =>
    rw [exact, Nat.cast_zero, zero_div, add_zero]
    rfl
  case isFalse inexact =>
    have pos : 0 < (n % d : ℕ) / (d : ℚ) :=
      div_pos (by exact_mod_cast Nat.pos_of_ne_zero inexact) scale
    cases order : compare (2 * (n % d)) d <;> simp only [Lies]
    case lt =>
      have half : (n % d : ℕ) / (d : ℚ) < 1 / 2 := by
        rw [div_lt_div_iff₀ scale two_pos, mul_comm, one_mul]
        exact_mod_cast Nat.compare_eq_lt.1 order
      constructor <;> linarith
    case eq =>
      have half : (n % d : ℕ) / (d : ℚ) = 1 / 2 := by
        rw [div_eq_div_iff scale.ne' two_ne_zero, mul_comm, one_mul]
        exact_mod_cast Nat.compare_eq_eq.1 order
      rw [half]
    case gt =>
      have half : 1 / 2 < (n % d : ℕ) / (d : ℚ) := by
        rw [div_lt_div_iff₀ two_pos scale, one_mul, mul_comm]
        exact_mod_cast Nat.compare_eq_gt.1 order
      constructor <;> linarith

theorem log_sub_log_le (hp : 0 < p) (hq : 0 < q) :
    Int.log 2 p - Int.log 2 q ≤ Int.log 2 (p / q) + 1 := by
  rw [← sub_le_iff_le_add, ← Int.zpow_le_iff_le_log one_lt_two (div_pos hp hq), le_div_iff₀ hq]
  calc
    ((2 : ℕ) : ℚ) ^ (Int.log 2 p - Int.log 2 q - 1) * q
      ≤ 2 ^ (Int.log 2 p - Int.log 2 q - 1) * 2 ^ (Int.log 2 q + 1) :=
        mul_le_mul_of_nonneg_left (lt_two_zpow_log q).le (two_zpow_pos _).le
    _ = 2 ^ Int.log 2 p := by
      rw [← zpow_add₀ two_ne_zero]
      congr 1
      ring
    _ ≤ p := two_zpow_log_le hp

theorem stands_div (hu : rational? u = some p) (hv : rational? v = some q) (hp : 0 ≤ p)
    (hq : 0 < q) (short : p / q < 2 ^ k) (room : Room f k) :
    Stands f (.div f u v) (rounded f (p / q)) := by
  obtain ⟨n, e', pos', rfl, rfl⟩ := finite_of_rational? hv hq
  obtain rfl | hp := hp.eq_or_lt
  · obtain ⟨s, rfl⟩ := zero_of_rational? hu
    rw [zero_div]
    exact stands_zero _
  · obtain ⟨m, e, pos, rfl, rfl⟩ := finite_of_rational? hu hp
    -- The whole quotient is taken at a place no higher than that of the last digit that is kept.
    let t := min (e - e') (f.targetExponent (totalExponent m e - totalExponent n e'))
    obtain ⟨shift, hshift⟩ := Int.le.dest (min_le_left _ _ : t ≤ e - e')
    have amount : (e - e' - t).toNat = shift := by omega
    have quotient : (m : ℚ) * 2 ^ e / (n * 2 ^ e') / 2 ^ t = (m <<< shift : ℕ) / n := by
      have scale : (2 : ℚ) ^ e = 2 ^ t * 2 ^ shift * 2 ^ e' := by
        rw [← zpow_natCast, ← zpow_add₀ two_ne_zero, ← zpow_add₀ two_ne_zero, hshift, sub_add_cancel]
      rw [scale, Nat.shiftLeft_eq]
      push_cast
      field_simp
    have place : t ≤ lastPlace f (m * 2 ^ e / (n * 2 ^ e')) := by
      apply (min_le_right _ _).trans
      apply targetExponent_mono
      have logs := log_sub_log_le hp hq
      rw [totalExponent_scaled pos, totalExponent_scaled pos']
      omega
    have core : divCore f m e n e' =
        ((m <<< shift) / n, t, accuracyOfFraction ((m <<< shift) % n) n) := by
      rw [divCore, amount]
    have lies := lies_div (m <<< shift) pos'
    rw [← quotient] at lies
    have made := stands_roundWithAccuracy lies (div_pos hp hq) place short room
    rw [UnpackedFloat.div, core]
    exact made

theorem doubleValue?_of_stands (h : Stands .binary64 u x) :
    doubleValue? (.ofModel (Float.Model.pack u)) = some x := by
  change rational? (.unpack .binary64 (UnpackedFloat.pack .binary64 u)) = some x
  rw [unpack_pack h.inFormat, h.value]

theorem value?_of_stands (h : Stands .binary32 u x) :
    value? (.ofModel (Float32.Model.pack u)) = some x := by
  change rational? (.unpack .binary32 (UnpackedFloat.pack .binary32 u)) = some x
  rw [unpack_pack h.inFormat, h.value]

theorem single_eq (h : InFormat .binary32 u) : single u = .ofModel (Float32.Model.pack u) := by
  change Float32.ofModel (Float32.Model.pack
    (UnpackedFloat.unpack .binary32 (UnpackedFloat.pack .binary32 u))) = _
  rw [unpack_pack h]

theorem inFormat_decode (s : Sign) {n : ℕ} (h : n < infinite) : InFormat .binary32 (decode s n) := by
  have least : Format.binary32.minExponent = -149 := rfl
  have bias : (Format.binary32.exponentBias : ℤ) = 127 := rfl
  obtain ⟨top, -⟩ | ⟨-, zero⟩ | ⟨-, hn, finite⟩ := decode_cases s h.le
  · omega
  · rw [zero]
    exact .zero s
  · rw [finite]
    unfold infinite at h
    refine .finite ?_ ?_ ?_ ?_
    · change digits n < 0x1000000
      unfold digits
      split <;> omega
    · rw [least, exponent]
      split <;> omega
    · rw [least, exponent]
      change 0x800000 ≤ digits n ∨ _
      unfold digits
      split <;> omega
    · rw [bias, exponent]
      change _ ≤ (127 : ℤ) - 23
      split <;> omega

theorem stands_parts {x : Float32} {q : ℚ} (h : value? x = some q) : Stands .binary32 (parts x) q :=
  ⟨h, parts_eq x ▸ inFormat_decode _ (value?_eq_some_iff.1 h).1⟩

theorem doubleValue?_toFloat (n : UInt64) :
    doubleValue? n.toFloat = some (rounded .binary64 n.toNat) :=
  doubleValue?_of_stands (stands_ofNat n.toNat_lt (by decide))

theorem value?_toFloat32 (n : UInt64) : value? n.toFloat32 = some (rounded .binary32 n.toNat) :=
  value?_of_stands (stands_ofNat n.toNat_lt (by decide))

theorem doubleValue?_div {x y : Float} (hx : doubleValue? x = some p) (hy : doubleValue? y = some q)
    (hp : 0 ≤ p) (hq : 0 < q) (short : p / q < 2 ^ (64 : ℤ)) :
    doubleValue? (x / y) = some (rounded .binary64 (p / q)) :=
  doubleValue?_of_stands (stands_div hx hy hp hq short (by decide))

theorem value?_div {x y : Float32} (hx : value? x = some p) (hy : value? y = some q) (hp : 0 ≤ p)
    (hq : 0 < q) (short : p / q < 2 ^ (64 : ℤ)) :
    value? (x / y) = some (rounded .binary32 (p / q)) :=
  value?_of_stands (stands_div hx hy hp hq short (by decide))

theorem value?_narrow {x : Float} (hx : doubleValue? x = some p) (hp : 0 ≤ p)
    (short : p < 2 ^ (64 : ℤ)) : value? (narrow x) = some (rounded .binary32 p) := by
  have made : Stands .binary32 (nearest .binary32 (doubleParts x)) _ :=
    stands_nearest hx hp short (by decide)
  rw [narrow, single_eq made.inFormat]
  exact value?_of_stands made

theorem value?_add {x y : Float32} (hx : value? x = some p) (hy : value? y = some q) (hp : 0 ≤ p)
    (hq : 0 ≤ q) (short : p + q < 2 ^ (64 : ℤ)) :
    value? (x + y) = some (rounded .binary32 (p + q)) :=
  value?_of_stands (stands_add (stands_parts hx) (stands_parts hy) hp hq short (by decide))

end FaceDecode.Number
