import FaceDecode.Proofs.Number.Encoding

namespace FaceDecode.Number

open Float.Model Float.Model.UnpackedFloat

/-- The value of a number, if it is finite. -/
def rational? : UnpackedFloat → Option ℚ
  | .zero _ => some 0
  | .finite s m e _ => some (s.apply m * 2 ^ e)
  | .infinity _ | .notANumber => none

def value? (x : Float32) : Option ℚ := rational? (parts x)

def doubleValue? (x : Float) : Option ℚ := rational? (doubleParts x)

def size (n : Nat) : ℚ := digits n * 2 ^ exponent n

theorem size_zero : size 0 = 0 := by
  simp [size, digits]

theorem size_strictMono : StrictMono size := by
  apply strictMono_nat_of_lt_succ
  intro n
  by_cases same : exponent n = exponent (n + 1)
  · have more : digits n < digits (n + 1) := by
      unfold digits exponent at *
      split_ifs at * <;> omega
    rw [size, size, same]
    apply mul_lt_mul_of_pos_right _ (zpow_pos two_pos _)
    exact_mod_cast more
  · -- The exponent grows where the digits start again.
    have next : exponent (n + 1) = exponent n + 1 ∧ digits n < 2 * digits (n + 1) := by
      unfold digits exponent at *
      split_ifs at * <;> omega
    rw [size, size, next.1, zpow_add_one₀ two_ne_zero, mul_comm _ (2 : ℚ), ← mul_assoc,
      mul_comm _ (2 : ℚ)]
    apply mul_lt_mul_of_pos_right _ (zpow_pos two_pos _)
    exact_mod_cast next.2

theorem size_nonneg (n : Nat) : 0 ≤ size n :=
  size_zero ▸ size_strictMono.monotone (Nat.zero_le n)

theorem size_eq_zero_iff {n : Nat} : size n = 0 ↔ n = 0 := by
  rw [← size_zero]
  exact size_strictMono.injective.eq_iff

theorem rational?_decode (s : Sign) {n : Nat} (h : n < infinite) :
    rational? (decode s n) = some (s.apply 1 * size n) := by
  obtain ⟨rfl, -⟩ | ⟨rfl, zero⟩ | ⟨-, hn, finite⟩ := decode_cases s h.le
  · omega
  · rw [zero, size_zero, mul_zero]
    rfl
  · rw [finite, rational?, size]
    cases s <;> simp [Sign.apply]

theorem rational?_decode_eq_none (s : Sign) {n : Nat} (h : infinite ≤ n) :
    rational? (decode s n) = none := by
  unfold decode
  obtain above | rfl := h.lt_or_eq
  · rw [if_pos above]
    rfl
  · rw [if_neg (lt_irrefl _), if_pos rfl]
    rfl

theorem value?_eq_some_iff {x : Float32} {q : ℚ} :
    value? x = some q ↔ magnitude x < infinite ∧ q = (sign x).apply 1 * size (magnitude x) := by
  rw [value?, parts_eq]
  by_cases finite : magnitude x < infinite
  · rw [rational?_decode _ finite, Option.some_inj, eq_comm, and_iff_right finite]
  · rw [rational?_decode_eq_none _ (not_lt.1 finite)]
    simp [finite]

theorem key_le_key_iff (s t : Sign) (n m : Nat) :
    s.apply n ≤ t.apply m ↔
      ((s.apply 1 : ℤ) : ℚ) * size n ≤ ((t.apply 1 : ℤ) : ℚ) * size m := by
  have order := size_strictMono.le_iff_le (a := n) (b := m)
  have order' := size_strictMono.le_iff_le (a := m) (b := n)
  have hn := size_nonneg n
  have hm := size_nonneg m
  cases s <;> cases t <;> simp only [Sign.apply] <;> push_cast
  · rw [neg_one_mul, neg_one_mul, neg_le_neg_iff, neg_le_neg_iff, order']
    exact Int.ofNat_le
  · exact iff_of_true (by omega) (by linarith)
  · have zeros : size n = 0 ∧ size m = 0 ↔ n = 0 ∧ m = 0 :=
      and_congr size_eq_zero_iff size_eq_zero_iff
    constructor
    · intro h
      obtain ⟨hn, hm⟩ := zeros.2 (by omega)
      simp [hn, hm]
    · intro h
      have := zeros.1 ⟨by linarith, by linarith⟩
      omega
  · rw [one_mul, one_mul, order]
    exact Int.ofNat_le

theorem le_iff_value {x y : Float32} {p q : ℚ} (hx : value? x = some p) (hy : value? y = some q) :
    x ≤ y ↔ p ≤ q := by
  obtain ⟨finite, rfl⟩ := value?_eq_some_iff.1 hx
  obtain ⟨finite', rfl⟩ := value?_eq_some_iff.1 hy
  rw [le_iff_key, and_iff_right finite.le, and_iff_right finite'.le]
  exact key_le_key_iff _ _ _ _

theorem exists_value?_of_le_of_le {x y z : Float32} {p q : ℚ} (hx : value? x = some p)
    (hz : value? z = some q) (h : x ≤ y) (h' : y ≤ z) : ∃ r, value? y = some r := by
  obtain ⟨finite, -⟩ := value?_eq_some_iff.1 hx
  obtain ⟨finite', -⟩ := value?_eq_some_iff.1 hz
  rw [le_iff_key, key, key] at h h'
  refine ⟨_, value?_eq_some_iff.2 ⟨?_, rfl⟩⟩
  cases hs : sign x <;> cases ht : sign y <;> cases hu : sign z <;>
    simp only [hs, ht, hu, Sign.apply] at h h' <;> omega

end FaceDecode.Number
