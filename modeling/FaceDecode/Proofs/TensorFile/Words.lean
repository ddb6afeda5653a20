import FaceDecode.Input.Format
import Mathlib.Data.Nat.Digits.Defs

namespace FaceDecode

namespace ByteOrder

variable (order : ByteOrder)

theorem or_shiftLeft {low high k : Nat} (below : low < 2 ^ k) (fits : 2 ^ k * high < 2 ^ 32) :
    low ||| high <<< k % 2 ^ 32 = low + 2 ^ k * high := by
  have shifted : high <<< k = 2 ^ k * high := by rw [Nat.shiftLeft_eq, Nat.mul_comm]
  rw [shifted, Nat.mod_eq_of_lt fits, ← shifted, Nat.or_comm, ← Nat.shiftLeft_add_eq_or_of_lt below,
    Nat.add_comm]

theorem toNat_word (a b c d : UInt8) : (little.word a b c d).toNat =
    a.toNat + 2 ^ 8 * b.toNat + 2 ^ 16 * c.toNat + 2 ^ 24 * d.toNat := by
  have ha := a.toNat_lt
  have hb := b.toNat_lt
  have hc := c.toNat_lt
  have hd := d.toNat_lt
  have two : a.toNat ||| b.toNat <<< 8 % 2 ^ 32 = a.toNat + 2 ^ 8 * b.toNat :=
    or_shiftLeft ha (by omega)
  have three : a.toNat + 2 ^ 8 * b.toNat ||| c.toNat <<< 16 % 2 ^ 32 =
      a.toNat + 2 ^ 8 * b.toNat + 2 ^ 16 * c.toNat := or_shiftLeft (by omega) (by omega)
  have four : a.toNat + 2 ^ 8 * b.toNat + 2 ^ 16 * c.toNat ||| d.toNat <<< 24 % 2 ^ 32 =
      a.toNat + 2 ^ 8 * b.toNat + 2 ^ 16 * c.toNat + 2 ^ 24 * d.toNat :=
    or_shiftLeft (by omega) (by omega)
  have bits : (little.word a b c d).toNat = ((a.toNat ||| b.toNat <<< 8 % 2 ^ 32) |||
      c.toNat <<< 16 % 2 ^ 32) ||| d.toNat <<< 24 % 2 ^ 32 := by
    simp only [word, UInt32.toNat_or, UInt32.toNat_shiftLeft, UInt8.toNat_toUInt32]
    rfl
  rw [bits, two, three, four]

theorem toNat_bytes (w : UInt32) : (little.bytes w).map UInt8.toNat =
    [w.toNat % 256, w.toNat / 256 % 256, w.toNat / 65536 % 256, w.toNat / 16777216 % 256] := by
  simp only [bytes, List.map_cons, List.map_nil, UInt32.toNat_toUInt8, UInt32.toNat_shiftRight,
    Nat.shiftRight_eq_div_pow]
  rfl

theorem ofDigits_bytes (w : UInt32) :
    Nat.ofDigits 256 ((little.bytes w).map UInt8.toNat) = w.toNat := by
  have short := w.toNat_lt
  rw [toNat_bytes]
  simp only [Nat.ofDigits_cons, Nat.ofDigits_nil]
  omega

theorem bytes_word (a b c d : UInt8) : order.bytes (order.word a b c d) = [a, b, c, d] := by
  have low (a b c d : UInt8) : little.bytes (little.word a b c d) = [a, b, c, d] := by
    have ha := a.toNat_lt
    have hb := b.toNat_lt
    have hc := c.toNat_lt
    have hd := d.toNat_lt
    refine (List.map_inj_right fun _ _ ↦ UInt8.toNat_inj.1).1 ?_
    rw [toNat_bytes, toNat_word]
    simp only [List.map_cons, List.map_nil, List.cons.injEq, and_true]
    omega
  cases order with
  | little => exact low a b c d
  | big => exact congrArg List.reverse (low d c b a)

theorem exists_bytes (w : UInt32) :
    ∃ a b c d, order.bytes w = [a, b, c, d] ∧ order.word a b c d = w := by
  have low : ∃ a b c d, little.bytes w = [a, b, c, d] ∧ little.word a b c d = w := by
    have short := w.toNat_lt
    have digits := toNat_bytes w
    refine ⟨_, _, _, _, rfl, UInt32.toNat_inj.1 ?_⟩
    simp only [bytes, List.map_cons, List.cons.injEq] at digits
    rw [toNat_word]
    omega
  obtain ⟨a, b, c, d, split, joined⟩ := low
  cases order with
  | little => exact ⟨a, b, c, d, split, joined⟩
  | big => exact ⟨d, c, b, a, congrArg List.reverse split, joined⟩

theorem encode_collect (before : Array UInt32) (content : List UInt8) :
    order.encode (order.collect before content).1 ++ (order.collect before content).2 =
      order.encode before ++ content := by
  fun_induction collect order before content with
  | case1 before a b c d rest ih =>
    rw [ih, encode, Array.toList_push, List.flatMap_append, List.append_assoc]
    simp [encode, bytes_word]
  | case2 before rest => rfl

theorem collect_bytes (before : Array UInt32) (w : UInt32) (rest : List UInt8) :
    order.collect before (order.bytes w ++ rest) = order.collect (before.push w) rest := by
  obtain ⟨a, b, c, d, split, rfl⟩ := order.exists_bytes w
  rw [split]
  rfl

theorem collect_flatMap_bytes (before : Array UInt32) (words : List UInt32) :
    order.collect before (words.flatMap order.bytes) = (before ++ words, []) := by
  induction words generalizing before with
  | nil => simp [collect]
  | cons w words ih =>
    rw [List.flatMap_cons, collect_bytes, ih]
    simp

theorem size_collect (before : Array UInt32) (content : List UInt8) :
    (order.collect before content).1.size = before.size + content.length / 4 ∧
      (order.collect before content).2.length = content.length % 4 := by
  fun_induction collect order before content with
  | case1 before a b c d rest ih =>
    simp only [Array.size_push, List.length_cons] at *
    omega
  | case2 before rest partial_word =>
    have short : rest.length < 4 := by
      rcases rest with _ | ⟨a, _ | ⟨b, _ | ⟨c, _ | ⟨d, rest⟩⟩⟩⟩
      · simp
      · simp
      · simp
      · simp
      · exact (partial_word a b c d rest rfl).elim
    simp only
    omega

theorem decode?_eq_some_iff {content : List UInt8} {words : Array UInt32} :
    order.decode? content = some words ↔ order.collect #[] content = (words, []) := by
  unfold decode?
  split
  case h_1 collected => simp [collected]
  case h_2 collected => simp [collected]

/-- Decoding and encoding undo each other. -/
theorem decode?_eq_some_iff_encode {content : List UInt8} {words : Array UInt32} :
    order.decode? content = some words ↔ order.encode words = content := by
  rw [decode?_eq_some_iff]
  constructor
  · intro collected
    have whole := order.encode_collect #[] content
    rw [collected, List.append_nil] at whole
    exact whole
  · rintro rfl
    rw [encode, collect_flatMap_bytes]
    simp

theorem decode?_eq_none_iff {content : List UInt8} :
    order.decode? content = none ↔ ¬ 4 ∣ content.length := by
  have left := (order.size_collect #[] content).2
  rw [Nat.dvd_iff_mod_eq_zero, ← left]
  unfold decode?
  split
  case h_1 collected => simp [collected]
  case h_2 collected => simp [collected]

end ByteOrder

namespace TensorFormat

open ByteOrder (little)

/-- The content of a raw file is read just where it divides into words, and it encodes the words that are
read: four bytes for each, the lowest first. All words are read back from their encoding, also those
that stand for a zero with a sign or for what is no number. -/
theorem raw_decode (path : String) (content : List UInt8) (words : Array UInt32) :
    ((∃ words, raw.decode path content = .ok words) ↔ 4 ∣ content.length) ∧
    (¬ 4 ∣ content.length → raw.decode path content = .error (.partialWord path content.length)) ∧
    (raw.decode path content = .ok words → little.encode words = content) ∧
    raw.decode path (little.encode words) = .ok words ∧
    little.encode words = words.toList.flatMap little.bytes ∧
    ∀ w, (little.bytes w).length = 4 ∧
      Nat.ofDigits 256 ((little.bytes w).map UInt8.toNat) = w.toNat := by
  have decoded (content : List UInt8) (words : Array UInt32) :
      raw.decode path content = .ok words ↔ little.encode words = content := by
    rw [← little.decode?_eq_some_iff_encode, decode]
    cases little.decode? content <;> simp
  refine ⟨?_, ?_, (decoded content words).1, (decoded _ words).2 rfl, rfl, fun w ↦ ?_⟩
  · rw [← not_iff_not, ← little.decode?_eq_none_iff, decode]
    cases little.decode? content <;> simp
  · intro uneven
    rw [decode, little.decode?_eq_none_iff.2 uneven]
  · exact ⟨rfl, ByteOrder.ofDigits_bytes w⟩

end TensorFormat

end FaceDecode
