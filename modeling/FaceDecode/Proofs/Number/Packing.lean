import FaceDecode.Number.Convert
import Mathlib

namespace FaceDecode.Number

open Float.Model Float.Model.UnpackedFloat

/-- The finite numbers of a format, each with the exponent that the format wants for it. -/
inductive InFormat (f : Format) : UnpackedFloat → Prop
  | zero (s : Sign) : InFormat f (.zero s)
  | finite {s : Sign} {m : ℕ} {e : ℤ} {pos : 0 < m} (short : m < 2 ^ f.mantissaBits)
      (least : f.minExponent ≤ e)
      (full : 2 ^ f.mantissaBitsWithoutImplicit ≤ m ∨ e = f.minExponent)
      (top : e ≤ f.exponentBias - f.mantissaBitsWithoutImplicit) : InFormat f (.finite s m e pos)

variable (f : Format)

theorem two_pow_exponentBits : 2 ^ f.exponentBits = 2 * (f.exponentBias + 1) := by
  have one : 1 ≤ 2 ^ (f.exponentBits - 1) := Nat.one_le_two_pow
  have bits : f.exponentBits = f.exponentBits - 1 + 1 := (Nat.sub_add_cancel f.he).symm
  rw [Format.exponentBias, Nat.sub_add_cancel one, bits, pow_succ, Nat.add_sub_cancel, mul_comm]

theorem minExponent_eq : f.minExponent = 1 - f.exponentBias - f.mantissaBitsWithoutImplicit := by
  have one : 1 ≤ 2 ^ (f.exponentBits - 1) := Nat.one_le_two_pow
  rw [Format.minExponent, Format.exponentBias, Format.mantissaBits, Nat.cast_sub one]
  push_cast
  ring

theorem two_pow_mantissaBits : 2 ^ f.mantissaBits = 2 * 2 ^ f.mantissaBitsWithoutImplicit := by
  rw [Format.mantissaBits, Nat.add_comm, pow_succ, mul_comm]

theorem unpackSign_packComponents (s : Sign) (e : BitVec f.exponentBits)
    (m : BitVec f.mantissaBitsWithoutImplicit) :
    Sign.ofBitVec (unpackSign (packComponents f s e m)) = s := by
  have bit : unpackSign (packComponents f s e m) = s.toBitVec := by
    ext i hi
    obtain rfl : i = 0 := by omega
    simp [unpackSign, packComponents, BitVec.getLsbD_append, BitVec.getElem_append]
  rw [bit]
  cases s <;> rfl

variable {f}

theorem toNat_neg_one (n : ℕ) : (-1#n).toNat = 2 ^ n - 1 := by
  rw [BitVec.neg_one_eq_allOnes, BitVec.toNat_allOnes]

theorem toNat_implicit {q : ℕ} (m : BitVec q) : (1#1 ++ m).toNat = 2 ^ q + m.toNat := by
  rw [BitVec.toNat_append, ← Nat.shiftLeft_add_eq_or_of_lt m.isLt, Nat.shiftLeft_eq]
  exact congrArg (· + m.toNat) (one_mul _)

theorem toNat_implicit_pos {q : ℕ} (m : BitVec q) : 0 < (1#1 ++ m).toNat := by
  rw [toNat_implicit]
  exact Nat.add_pos_left (Nat.two_pow_pos q) _

theorem toNat_implicit_ofNat {q m : ℕ} (full : 2 ^ q ≤ m) (short : m < 2 * 2 ^ q) :
    (1#1 ++ BitVec.ofNat q m).toNat = m := by
  obtain ⟨rest, rfl⟩ := Nat.exists_eq_add_of_le full
  rw [toNat_implicit, BitVec.toNat_ofNat, Nat.add_mod_left, Nat.mod_eq_of_lt (by omega)]

theorem unpack_packComponents (s : Sign) {e : BitVec f.exponentBits}
    (m : BitVec f.mantissaBitsWithoutImplicit) (low : e ≠ 0#_) (high : e ≠ -1#_) :
    UnpackedFloat.unpack f (packComponents f s e m) = .finite s (1#1 ++ m).toNat
      (e.toNat - (f.exponentBias + f.mantissaBitsWithoutImplicit)) (toNat_implicit_pos m) := by
  simp only [UnpackedFloat.unpack, unpackExponent_packComponents, unpackMantissa_packComponents,
    unpackSign_packComponents, if_neg low, if_neg high]

theorem unpack_packComponents_zero (s : Sign) (m : BitVec f.mantissaBitsWithoutImplicit) :
    UnpackedFloat.unpack f (packComponents f s 0#_ m) = if h : m = 0#_ then .zero s else
      .finite s m.toNat f.minExponent ((BitVec.toNat_pos _).2 ((BitVec.pos_iff_ne_zero _).2 h)) := by
  have high : (0#f.exponentBits) ≠ -1#_ := by
    have bits := two_pow_exponentBits f
    rw [ne_eq, ← BitVec.toNat_inj, toNat_neg_one, BitVec.toNat_zero]
    omega
  simp only [UnpackedFloat.unpack, unpackExponent_packComponents, unpackMantissa_packComponents,
    unpackSign_packComponents, if_neg high, if_true, BitVec.toNat_zero, minExponent_eq]
  split
  · rfl
  · congr 1
    push_cast
    ring

theorem unpack_pack {u : UnpackedFloat} (h : InFormat f u) :
    UnpackedFloat.unpack f (UnpackedFloat.pack f u) = u := by
  cases h with
  | zero s => exact (unpack_packComponents_zero s 0#_).trans (dif_pos rfl)
  | @finite s m e pos short least full top =>
    have bits := two_pow_exponentBits f
    obtain ⟨b, biased⟩ : ∃ b : ℕ, e + f.exponentBias + f.mantissaBitsWithoutImplicit = b :=
      Int.eq_ofNat_of_zero_le (by rw [minExponent_eq] at least; omega)
    rw [minExponent_eq] at least
    have digits : m < 2 * 2 ^ f.mantissaBitsWithoutImplicit := two_pow_mantissaBits f ▸ short
    rw [UnpackedFloat.pack, biased, Int.toNat_natCast, if_neg (by omega)]
    by_cases normal : 2 ^ f.mantissaBitsWithoutImplicit ≤ m
    · have size : m.log2 + 1 = f.mantissaBits := by
        have low := (Nat.le_log2 pos.ne').2 normal
        have high := (Nat.log2_lt pos.ne').2 short
        rw [Format.mantissaBits] at *
        omega
      have exponent : (BitVec.ofNat f.exponentBits b).toNat = b := by
        rw [BitVec.toNat_ofNat, Nat.mod_eq_of_lt (by omega)]
      rw [if_pos size, unpack_packComponents]
      · simp only [toNat_implicit_ofNat normal digits, exponent, UnpackedFloat.finite.injEq, true_and]
        omega
      · rw [ne_eq, ← BitVec.toNat_inj, exponent, BitVec.toNat_zero]
        omega
      · rw [ne_eq, ← BitVec.toNat_inj, exponent, toNat_neg_one]
        omega
    · have size : m.log2 + 1 ≠ f.mantissaBits := by
        have high := (Nat.log2_lt pos.ne').2 (not_le.1 normal)
        rw [Format.mantissaBits]
        omega
      have mantissa : (BitVec.ofNat f.mantissaBitsWithoutImplicit m).toNat = m := by
        rw [BitVec.toNat_ofNat, Nat.mod_eq_of_lt (not_le.1 normal)]
      rw [if_neg size, unpack_packComponents_zero, dif_neg]
      · simp only [mantissa, full.resolve_left normal]
      · rw [← BitVec.toNat_inj, mantissa, BitVec.toNat_zero]
        exact pos.ne'

theorem isNaN_unpack_packComponents (s : Sign) {e : BitVec f.exponentBits}
    (m : BitVec f.mantissaBitsWithoutImplicit) (high : e ≠ -1#_) :
    (UnpackedFloat.unpack f (packComponents f s e m)).isNaN = false := by
  by_cases low : e = 0#_
  · rw [low, unpack_packComponents_zero]
    split <;> rfl
  · rw [unpack_packComponents s m low high]
    rfl

theorem unpack_packedInfinity (s : Sign) :
    UnpackedFloat.unpack f (packedInfinity f s) = .infinity s := by
  simp only [packedInfinity, UnpackedFloat.unpack, unpackExponent_packComponents,
    unpackMantissa_packComponents, unpackSign_packComponents, if_true]
  exact if_pos rfl

theorem isNaN_unpack_pack {u : UnpackedFloat} (h : u.isNaN = false) :
    (UnpackedFloat.unpack f (UnpackedFloat.pack f u)).isNaN = false := by
  cases u with
  | notANumber => cases h
  | infinity s => exact congrArg UnpackedFloat.isNaN (unpack_packedInfinity s)
  | zero s => exact congrArg UnpackedFloat.isNaN (unpack_pack (.zero s))
  | finite s m e pos =>
    rw [UnpackedFloat.pack]
    split_ifs with large full
    · exact congrArg UnpackedFloat.isNaN (unpack_packedInfinity s)
    · refine isNaN_unpack_packComponents s _ fun top ↦ large ?_
      rw [← BitVec.toNat_inj, BitVec.toNat_ofNat, toNat_neg_one] at top
      have := Nat.mod_le (e + f.exponentBias + f.mantissaBitsWithoutImplicit).toNat
        (2 ^ f.exponentBits)
      omega
    · rw [unpack_packComponents_zero]
      split <;> rfl

end FaceDecode.Number
