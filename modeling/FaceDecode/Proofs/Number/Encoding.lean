import FaceDecode.Proofs.Number.Packing

namespace FaceDecode.Number

open Float.Model Float.Model.UnpackedFloat

def magnitude (x : Float32) : Nat := x.toBits.toNat % 0x80000000

def sign (x : Float32) : Sign := if x.toBits.toNat < 0x80000000 then .positive else .negative

def infinite : Nat := 0x7f800000

def digits (n : Nat) : Nat := if n < 0x800000 then n else 0x800000 + n % 0x800000

def exponent (n : Nat) : Int := if n < 0x800000 then -149 else (n / 0x800000 : Nat) - 150

theorem digits_pos {n : Nat} (h : n ≠ 0) : 0 < digits n := by
  unfold digits
  split <;> omega

def decode (s : Sign) (n : Nat) : UnpackedFloat :=
  if infinite < n then .notANumber
  else if n = infinite then .infinity s
  else if h : n = 0 then .zero s
  else .finite s (digits n) (exponent n) (digits_pos h)

variable (b : BitVec 32)

theorem toNat_unpackMantissa : (@unpackMantissa .binary32 b).toNat = b.toNat % 0x800000 := by
  simp [unpackMantissa]

theorem toNat_unpackExponent :
    (@unpackExponent .binary32 b).toNat = b.toNat / 0x800000 % 0x100 := by
  simp [unpackExponent, Nat.shiftRight_eq_div_pow]

theorem toNat_unpackSign : (@unpackSign .binary32 b).toNat = b.toNat / 0x80000000 := by
  have hb : b.toNat < 0x100000000 := b.isLt
  simp [unpackSign, Nat.shiftRight_eq_div_pow]
  omega

theorem sign_unpack :
    Sign.ofBitVec (@unpackSign .binary32 b) =
      if b.toNat < 0x80000000 then .positive else .negative := by
  have hs := toNat_unpackSign b
  have hb : b.toNat < 0x100000000 := b.isLt
  unfold Sign.ofBitVec
  congr 1
  rw [← BitVec.toNat_inj, hs, eq_iff_iff]
  change b.toNat / 0x80000000 = 0 ↔ _
  omega

theorem unpackExponent_eq_iff (e : BitVec 8) :
    @unpackExponent .binary32 b = e ↔ b.toNat / 0x800000 % 0x100 = e.toNat := by
  rw [← BitVec.toNat_inj, toNat_unpackExponent]

theorem unpackMantissa_eq_zero_iff :
    @unpackMantissa .binary32 b = 0#_ ↔ b.toNat % 0x800000 = 0 := by
  rw [← BitVec.toNat_inj, toNat_unpackMantissa]
  rfl

theorem unpack_eq : unpack .binary32 b =
    decode (if b.toNat < 0x80000000 then .positive else .negative) (b.toNat % 0x80000000) := by
  have hb : b.toNat < 0x100000000 := b.isLt
  have hm := toNat_unpackMantissa b
  have he := toNat_unpackExponent b
  have hf : @unpackExponent .binary32 b = -1#_ ↔ b.toNat / 0x800000 % 0x100 = 0xff :=
    unpackExponent_eq_iff b _
  have hz : @unpackExponent .binary32 b = 0#_ ↔ b.toNat / 0x800000 % 0x100 = 0 :=
    unpackExponent_eq_iff b _
  have hn := unpackMantissa_eq_zero_iff b
  have bias : (Format.binary32.exponentBias : Int) = 127 := rfl
  unfold UnpackedFloat.unpack decode infinite
  simp only [sign_unpack]
  generalize (if b.toNat < 0x80000000 then Sign.positive else .negative) = s
  -- The largest exponent is that of what is not finite, the smallest that of the subnormal numbers.
  by_cases special : b.toNat / 0x800000 % 0x100 = 0xff
  · rw [if_pos (hf.2 special)]
    by_cases whole : b.toNat % 0x800000 = 0
    · have top : b.toNat % 0x80000000 = 0x7f800000 := by omega
      rw [if_pos (hn.2 whole), if_neg (by omega), if_pos top]
    · have above : 0x7f800000 < b.toNat % 0x80000000 := by omega
      rw [if_neg (mt hn.1 whole), if_pos above]
  · have below : b.toNat % 0x80000000 < 0x7f800000 := by omega
    rw [if_neg (mt hf.1 special), if_neg (Nat.lt_asymm below), if_neg (Nat.ne_of_lt below)]
    by_cases small : b.toNat / 0x800000 % 0x100 = 0
    · rw [if_pos (hz.2 small)]
      by_cases whole : b.toNat % 0x800000 = 0
      · rw [dif_pos (hn.2 whole), dif_pos (by omega)]
      · rw [dif_neg (mt hn.1 whole), dif_neg (by omega)]
        have subnormal : b.toNat % 0x80000000 < 0x800000 := by omega
        simp only [digits, exponent, hm, he, bias, if_pos subnormal, UnpackedFloat.finite.injEq,
          true_and]
        omega
    · rw [if_neg (mt hz.1 small), dif_neg (by omega)]
      have normal : ¬ b.toNat % 0x80000000 < 0x800000 := by omega
      have ht : (1#1 ++ @unpackMantissa .binary32 b).toNat = 0x800000 + b.toNat % 0x800000 := by
        rw [toNat_implicit, hm]
        rfl
      simp only [digits, exponent, ht, he, bias, if_neg normal, UnpackedFloat.finite.injEq, true_and]
      omega

theorem parts_eq (x : Float32) : parts x = decode (sign x) (magnitude x) :=
  unpack_eq x.toBits.toBitVec

theorem isNaN_iff (x : Float32) : x.isNaN = true ↔ infinite < magnitude x := by
  change (parts x).isNaN = true ↔ _
  rw [parts_eq, decode]
  split
  case isTrue h => simp only [UnpackedFloat.isNaN, h]
  case isFalse h =>
    split
    · simp only [UnpackedFloat.isNaN, h, Bool.false_eq_true]
    · split <;> simp only [UnpackedFloat.isNaN, h, Bool.false_eq_true]

theorem isNaN_eq_false_iff (x : Float32) : x.isNaN = false ↔ magnitude x ≤ infinite := by
  rw [← Bool.not_eq_true, isNaN_iff, Nat.not_lt]

theorem parts_injective {x y : Float32} (h : parts x = parts y) : x = y := by
  rw [← Float32.toBits_inj, ← UInt32.toBitVec_inj]
  exact (unpack_inj_of_valid x.toModel.valid y.toModel.valid).1 h

def key (x : Float32) : Int := (sign x).apply (magnitude x)

theorem compare_finite {n m : Nat} :
    (compare (exponent n) (exponent m)).then (compare (digits n) (digits m)) = compare n m := by
  rcases Nat.lt_trichotomy n m with h | rfl | h
  · rw [Nat.compare_eq_lt.2 h, Ordering.then_eq_lt, Int.compare_eq_lt, Int.compare_eq_eq,
      Nat.compare_eq_lt]
    unfold exponent digits
    split <;> split <;> omega
  · simp
  · rw [Nat.compare_eq_gt.2 h, Ordering.then_eq_gt, Int.compare_eq_gt, Int.compare_eq_eq,
      Nat.compare_eq_gt]
    unfold exponent digits
    split <;> split <;> omega

theorem decode_cases (s : Sign) {n : Nat} (h : n ≤ infinite) :
    n = infinite ∧ decode s n = .infinity s ∨ n = 0 ∧ decode s n = .zero s ∨
      n < infinite ∧ ∃ hn : n ≠ 0,
        decode s n = .finite s (digits n) (exponent n) (digits_pos hn) := by
  unfold decode
  rw [if_neg (Nat.not_lt.2 h)]
  by_cases top : n = infinite
  · exact .inl ⟨top, if_pos top⟩
  · rw [if_neg top]
    by_cases zero : n = 0
    · exact .inr (.inl ⟨zero, dif_pos zero⟩)
    · exact .inr (.inr ⟨by omega, zero, dif_neg zero⟩)

theorem compare_sign (s t : Sign) {k : Int} (h : 0 < k) :
    compare s t = compare (s.apply k) (t.apply k) := by
  cases s <;> cases t
  · exact (Int.compare_eq_eq.2 rfl).symm
  · exact (Int.compare_eq_lt.2 (show -k < k by omega)).symm
  · exact (Int.compare_eq_gt.2 (show -k < k by omega)).symm
  · exact (Int.compare_eq_eq.2 rfl).symm

theorem compare_cast (n m : Nat) : compare (n : Int) m = compare n m := by
  simp only [Int.compare_eq_ite_lt, Nat.compare_eq_ite_lt, Int.ofNat_lt]

theorem compare_neg_neg (a b : Int) : compare (-a) (-b) = compare b a := by
  simp only [Int.compare_eq_ite_lt, Int.neg_lt_neg_iff]

theorem compare_decode_finite (s t : Sign) {n m : Nat} (hn : n ≠ 0) (hm : m ≠ 0) :
    (UnpackedFloat.finite s (digits n) (exponent n) (digits_pos hn)).compare
      (.finite t (digits m) (exponent m) (digits_pos hm)) =
      some (compare (s.apply n) (t.apply m)) := by
  cases s <;> cases t <;> simp only [UnpackedFloat.compare, Sign.apply, compare_finite]
  · rw [compare_neg_neg, compare_cast, Nat.compare_swap]
  · rw [Int.compare_eq_lt.2 (by omega)]
  · rw [Int.compare_eq_gt.2 (by omega)]
  · rw [compare_cast]

theorem compare_decode (s t : Sign) {n m : Nat} (hn : n ≤ infinite) (hm : m ≤ infinite) :
    (decode s n).compare (decode t m) = some (compare (s.apply n) (t.apply m)) := by
  have hi : 0 < infinite := by decide
  rcases decode_cases s hn with ⟨rfl, hs⟩ | ⟨rfl, hs⟩ | ⟨ltn, hn0, hs⟩ <;>
    rcases decode_cases t hm with ⟨rfl, ht⟩ | ⟨rfl, ht⟩ | ⟨ltm, hm0, ht⟩ <;> rw [hs, ht]
  case inl.inl => exact congrArg some (compare_sign s t (by omega))
  case inr.inr.inr.inr => exact compare_decode_finite s t hn0 hm0
  case inr.inl.inr.inl => cases s <;> cases t <;> rfl
  -- Of the others, the sign of the larger magnitude settles the comparison.
  all_goals
    cases s <;> cases t <;> simp only [UnpackedFloat.compare, Sign.apply, Option.some_inj] <;>
      symm <;> simp only [Int.compare_eq_lt, Int.compare_eq_gt] <;> omega

theorem parts_eq_notANumber {x : Float32} (h : infinite < magnitude x) :
    parts x = .notANumber := by
  rw [parts_eq, decode, if_pos h]

theorem compare_parts (x y : Float32) : (parts x).compare (parts y) =
    if magnitude x ≤ infinite ∧ magnitude y ≤ infinite then some (compare (key x) (key y))
    else none := by
  split
  case isTrue h => rw [parts_eq, parts_eq, compare_decode _ _ h.1 h.2, key, key]
  case isFalse h =>
    rcases not_and_or.1 h with hx | hy
    · rw [parts_eq_notANumber (Nat.lt_of_not_le hx)]
      rfl
    · rw [parts_eq_notANumber (Nat.lt_of_not_le hy)]
      cases parts x <;> rfl

theorem le_iff_compare {x y : Float32} :
    x ≤ y ↔ ((parts x).compare (parts y)).any (·.isLE) = true :=
  decide_eq_true_iff

theorem lt_iff_compare {x y : Float32} :
    x < y ↔ ((parts x).compare (parts y) == some .lt) = true :=
  decide_eq_true_iff

theorem le_iff_key {x y : Float32} :
    x ≤ y ↔ magnitude x ≤ infinite ∧ magnitude y ≤ infinite ∧ key x ≤ key y := by
  rw [le_iff_compare, compare_parts, ← and_assoc]
  split
  case isTrue h => rw [Option.any_some, Int.isLE_compare, and_iff_right h]
  case isFalse h => simp [h]

theorem lt_iff_key {x y : Float32} :
    x < y ↔ magnitude x ≤ infinite ∧ magnitude y ≤ infinite ∧ key x < key y := by
  rw [lt_iff_compare, compare_parts, ← and_assoc]
  split
  case isTrue h => rw [beq_iff_eq, Option.some_inj, Int.compare_eq_lt, and_iff_right h]
  case isFalse h => simp [h]

theorem le_trans {x y z : Float32} (h : x ≤ y) (h' : y ≤ z) : x ≤ z := by
  rw [le_iff_key] at h h' ⊢
  exact ⟨h.1, h'.2.1, Int.le_trans h.2.2 h'.2.2⟩

theorem lt_of_not_le {x y : Float32} (hx : x.isNaN = false) (hy : y.isNaN = false) (h : ¬ x ≤ y) :
    y < x := by
  rw [isNaN_eq_false_iff] at hx hy
  rw [le_iff_key, and_iff_right hx, and_iff_right hy, Int.not_le] at h
  exact lt_iff_key.2 ⟨hy, hx, h⟩

theorem not_isNaN_of_le {x y : Float32} (h : x ≤ y) : x.isNaN = false ∧ y.isNaN = false := by
  rw [le_iff_key] at h
  exact ⟨(isNaN_eq_false_iff x).2 h.1, (isNaN_eq_false_iff y).2 h.2.1⟩

theorem not_isNaN_of_lt {x y : Float32} (h : x < y) : x.isNaN = false ∧ y.isNaN = false := by
  rw [lt_iff_key] at h
  exact ⟨(isNaN_eq_false_iff x).2 h.1, (isNaN_eq_false_iff y).2 h.2.1⟩

end FaceDecode.Number
