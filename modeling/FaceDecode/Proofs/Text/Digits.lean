import FaceDecode.Text.Digits
import Mathlib.Data.List.Basic
import Mathlib.Data.Nat.Digits.Defs

namespace FaceDecode.Digits

theorem length_padded (base width n : Nat) : (padded base width n).length = width := by
  induction width generalizing n with
  | zero => rfl
  | succ width ih => rw [padded, List.length_append, ih, List.length_singleton]

theorem digit_mem {n : Nat} (h : n < 16) : digit n ∈ "0123456789ABCDEF".toList := by
  revert n
  decide

theorem hexValue?_digit {n : Nat} (h : n < 16) : hexValue? (digit n) = some n := by
  revert n
  decide

theorem mem_padded {base : Nat} (some_base : 0 < base) (small : base ≤ 16) (width n : Nat) :
    ∀ c ∈ padded base width n, c ∈ "0123456789ABCDEF".toList := by
  induction width generalizing n with
  | zero => exact List.forall_mem_nil _
  | succ width ih =>
    intro c h
    rcases List.mem_append.1 h with before | last
    · exact ih (n / base) c before
    · rw [List.mem_singleton.1 last]
      apply digit_mem
      exact Nat.lt_of_lt_of_le (Nat.mod_lt n some_base) small

theorem hexValue?_padded (width n : Nat) :
    ∃ values, (padded 16 width n).mapM hexValue? = some values ∧
      Nat.ofDigits 16 values.reverse = n % 16 ^ width := by
  induction width generalizing n with
  | zero => exact ⟨[], rfl, (Nat.mod_one n).symm⟩
  | succ width ih =>
    obtain ⟨values, read, value⟩ := ih (n / 16)
    have last : [digit (n % 16)].mapM hexValue? = some [n % 16] := by
      rw [List.mapM_cons, hexValue?_digit (Nat.mod_lt n (by decide))]
      rfl
    refine ⟨values ++ [n % 16], ?_, ?_⟩
    · rw [padded, List.mapM_append, read, last]
      rfl
    · rw [List.reverse_append, List.reverse_singleton, List.singleton_append, Nat.ofDigits_cons,
        value, Nat.pow_succ', Nat.mod_mul]

theorem digit_inj {n m : Nat} (hn : n < 16) (hm : m < 16) : digit n = digit m ↔ n = m := by
  constructor
  · intro same
    have value := hexValue?_digit hn
    rw [same, hexValue?_digit hm] at value
    exact (Option.some.inj value).symm
  · rintro rfl
    rfl

/-- A number that fits into the digits can be told from them. -/
theorem padded_inj {base : Nat} (some_base : 0 < base) (small : base ≤ 16) {width n m : Nat}
    (hn : n < base ^ width) (hm : m < base ^ width) :
    padded base width n = padded base width m ↔ n = m := by
  induction width generalizing n m with
  | zero =>
    rw [Nat.pow_zero] at hn hm
    exact iff_of_true rfl (by omega)
  | succ width ih =>
    have short {k : Nat} (h : k < base ^ (width + 1)) : k / base < base ^ width :=
      Nat.div_lt_of_lt_mul (Nat.pow_succ' ▸ h)
    have last (k : Nat) : k % base < 16 := Nat.lt_of_lt_of_le (Nat.mod_lt k some_base) small
    constructor
    · intro same
      rw [padded, padded] at same
      obtain ⟨front, back⟩ := List.append_inj same (by rw [length_padded, length_padded])
      have quotients := (ih (short hn) (short hm)).1 front
      have rests := (digit_inj (last n) (last m)).1 (List.singleton_inj.1 back)
      rw [← Nat.div_add_mod n base, ← Nat.div_add_mod m base, quotients, rests]
    · rintro rfl
      rfl

end FaceDecode.Digits
