import FaceDecode.Proofs.Exposure.Areas
import FaceDecode.Proofs.Number.Arithmetic

namespace FaceDecode

open Number Float.Model

namespace ExposureSettings

/-- The part of the area that a window has, or of the count where there is no area. -/
def share (total count : ℕ) (w : ExposureWindow) : ℚ :=
  if total = 0 then 1 / count else w.extent / total

theorem share_nonneg (total count : ℕ) (w : ExposureWindow) : 0 ≤ share total count w := by
  unfold share
  split <;> positivity

theorem sum_extent_div (windows : List ExposureWindow) (total : ℚ) :
    (windows.map fun w ↦ (w.extent : ℚ) / total).sum = covered windows / total := by
  induction windows with
  | nil => simp [covered]
  | cons w windows ih => rw [List.map_cons, List.sum_cons, ih, covered, Nat.cast_add, add_div]

theorem sum_share {windows : List ExposureWindow} (kept : windows ≠ []) :
    (windows.map (share (covered windows) windows.length)).sum = 1 := by
  unfold share
  split
  case isTrue =>
    have count : (windows.length : ℚ) ≠ 0 := by simpa using kept
    rw [List.map_const', List.sum_replicate, nsmul_eq_mul, mul_one_div_cancel count]
  case isFalse area =>
    rw [sum_extent_div, div_self (by exact_mod_cast area)]

theorem extent_le_covered {windows : List ExposureWindow} {w : ExposureWindow} (h : w ∈ windows) :
    w.extent ≤ covered windows := by
  induction windows with
  | nil => cases h
  | cons v windows ih =>
    rw [covered]
    cases h with
    | head => omega
    | tail _ h =>
      have := ih h
      omega

theorem abs_rounded_single_sub_le {x : ℚ} (hx : 0 ≤ x) (short : x < 2) :
    |rounded .binary32 x - x| ≤ 1 / 2 ^ 24 := by
  have near := abs_rounded_sub_le .binary32 hx (short.trans_eq (zpow_one 2).symm)
  have place : Format.binary32.targetExponent 1 = -23 := by decide
  rw [place] at near
  exact near.trans_eq (by norm_num)

theorem abs_rounded_double_sub_le {x : ℚ} (hx : 0 ≤ x) (short : x < 2) :
    |rounded .binary64 x - x| ≤ 1 / 2 ^ 53 := by
  have near := abs_rounded_sub_le .binary64 hx (short.trans_eq (zpow_one 2).symm)
  have place : Format.binary64.targetExponent 1 = -52 := by decide
  rw [place] at near
  exact near.trans_eq (by norm_num)

theorem rounded_whole (n : ℕ) : |rounded .binary64 n - n| ≤ n / 2 ^ 53 := by
  obtain rfl | pos := Nat.eq_zero_or_pos n
  · simp
  · apply abs_rounded_sub_le_mul .binary64
    have small : Format.binary64.minExponent + Format.binary64.mantissaBits - 1 ≤ 0 := by decide
    exact (zpow_le_one_of_nonpos₀ one_le_two small).trans (by exact_mod_cast pos)

/-- Rounding two whole numbers first moves their quotient only a little. -/
theorem quotient_near {a b : ℕ} (hb : 0 < b) (h : a ≤ b) :
    0 < rounded .binary64 b ∧
      |rounded .binary64 a / rounded .binary64 b - a / b| ≤ 1 / 2 ^ 50 := by
  have near_a := rounded_whole a
  have near_b := rounded_whole b
  generalize rounded .binary64 a = p at *
  generalize rounded .binary64 b = q at *
  have wide : (0 : ℚ) < b := by exact_mod_cast hb
  have le : (a : ℚ) ≤ b := by exact_mod_cast h
  have half : (b : ℚ) / 2 ≤ q := by linarith [(abs_le.1 near_b).1]
  have hq : 0 < q := (half_pos wide).trans_le half
  refine ⟨hq, ?_⟩
  rw [div_sub_div _ _ hq.ne' wide.ne', abs_div, abs_of_pos (mul_pos hq wide),
    div_le_iff₀ (mul_pos hq wide)]
  calc
    |p * b - q * a| = |(p - a) * b - (q - b) * a| := by ring_nf
    _ ≤ |(p - a) * b| + |(q - b) * a| := abs_sub _ _
    _ ≤ a / 2 ^ 53 * b + b / 2 ^ 53 * a := by
      rw [abs_mul, abs_mul, Nat.abs_cast, Nat.abs_cast]
      gcongr
    _ = a * b / 2 ^ 52 := by ring
    _ ≤ (2 * q) * b / 2 ^ 52 := by
      gcongr
      linarith
    _ ≤ 1 / 2 ^ 50 * (q * b) := by
      have := mul_pos hq wide
      linarith

theorem weight_near_of_no_area {count : ℕ} (pos : 0 < count) (few : count ≤ maxWindows)
    (w : ExposureWindow) :
    ∃ q, value? (weight 0 count w) = some q ∧ 0 ≤ q ∧ q ≤ 1 ∧
      |q - share 0 count w| ≤ 1 / 2 ^ 23 := by
  have one : value? 1 = some 1 := by decide +kernel
  have wide : (1 : ℚ) ≤ count := by exact_mod_cast pos
  have short : count < 16777216 := few.trans_lt (by decide)
  have held : count.toUInt64.toNat = count :=
    UInt64.toNat_ofNat_of_lt' (few.trans_lt (by decide))
  have number := value?_toFloat32 count.toUInt64
  rw [held, rounded_natCast .binary32 (by decide) short] at number
  have low : (0 : ℚ) ≤ 1 / count := by positivity
  have high : (1 : ℚ) / count ≤ 1 := div_le_one_of_le₀ wide (by positivity)
  have near := abs_rounded_single_sub_le low (high.trans_lt one_lt_two)
  have quotient := value?_div one number zero_le_one (by linarith) (high.trans_lt (by norm_num))
  refine ⟨_, quotient, rounded_nonneg _ low, rounded_le_one _ (by decide) low high, near.trans ?_⟩
  norm_num

theorem weight_near_of_area {total : ℕ} (fits : total < UInt64.size) (area : 0 < total) (count : ℕ)
    {w : ExposureWindow} (h : w.extent ≤ total) :
    ∃ q, value? (weight (.ofNat total) count w) = some q ∧ 0 ≤ q ∧ q ≤ 1 ∧
      |q - share total count w| ≤ 1 / 2 ^ 23 := by
  have held : (UInt64.ofNat total).toNat = total := UInt64.toNat_ofNat_of_lt' fits
  have some_area : UInt64.ofNat total ≠ 0 := by
    rw [ne_eq, ← UInt64.toNat_inj, held]
    exact area.ne'
  have part := doubleValue?_toFloat w.area
  have whole := doubleValue?_toFloat (.ofNat total)
  rw [w.toNat_area] at part
  rw [held] at whole
  obtain ⟨wide, near⟩ := quotient_near area h
  have below : 0 ≤ rounded .binary64 w.extent := rounded_nonneg _ (Nat.cast_nonneg _)
  have order : rounded .binary64 w.extent ≤ rounded .binary64 total :=
    rounded_mono _ (Nat.cast_nonneg _) (by exact_mod_cast h)
  have low := div_nonneg below wide.le
  have high := div_le_one_of_le₀ order wide.le
  have low' := rounded_nonneg .binary64 low
  have high' := rounded_le_one .binary64 (by decide) low high
  have near' := abs_rounded_double_sub_le low (high.trans_lt one_lt_two)
  have near'' := abs_rounded_single_sub_le low' (high'.trans_lt one_lt_two)
  have short : (1 : ℚ) < 2 ^ (64 : ℤ) := by norm_num
  have divided := doubleValue?_div part whole below wide (high.trans_lt short)
  have narrowed := value?_narrow divided low' (high'.trans_lt short)
  rw [weight, if_neg some_area, share, if_neg area.ne']
  refine ⟨_, narrowed, rounded_nonneg _ low', rounded_le_one _ (by decide) low' high', ?_⟩
  rw [abs_le] at near near' near'' ⊢
  constructor <;> linarith

theorem weight_near {total count : ℕ} (fits : total < UInt64.size) (pos : 0 < count)
    (few : count ≤ maxWindows) {w : ExposureWindow} (h : w.extent ≤ total) :
    ∃ q, value? (weight (.ofNat total) count w) = some q ∧ 0 ≤ q ∧ q ≤ 1 ∧
      |q - share total count w| ≤ 1 / 2 ^ 23 := by
  obtain rfl | area := Nat.eq_zero_or_pos total
  · exact weight_near_of_no_area pos few w
  · exact weight_near_of_area fits area count h

/-- Each sum of weights is rounded once more. While the sums stay below two, the distance to the sum of
the shares grows by the same small amount with each weight. -/
theorem exists_sum {α : Type} {weight : α → Float32} {share : α → ℚ} {l : List α}
    (near : ∀ w ∈ l, ∃ q, value? (weight w) = some q ∧ 0 ≤ q ∧ |q - share w| ≤ 1 / 2 ^ 23)
    {start : Float32} {a b d : ℚ} (begun : value? start = some a) (nonneg : 0 ≤ a)
    (close : |a - b| ≤ d) (shares : ∀ w ∈ l, 0 ≤ share w) (whole : b + (l.map share).sum ≤ 1)
    (few : d + l.length / 2 ^ 22 ≤ 1 / 2) :
    ∃ t, value? ((l.map weight).foldl (· + ·) start) = some t ∧
      |t - (b + (l.map share).sum)| ≤ d + l.length / 2 ^ 22 := by
  induction l generalizing start a b d with
  | nil => exact ⟨a, begun, by simpa using close⟩
  | cons w l ih =>
    obtain ⟨q, hq, q_nonneg, q_near⟩ := near w List.mem_cons_self
    have rest : 0 ≤ (l.map share).sum := by
      apply List.sum_nonneg
      simpa using fun w hw ↦ shares w (List.mem_cons_of_mem _ hw)
    have count : (0 : ℚ) ≤ l.length / 2 ^ 22 := by positivity
    rw [List.map_cons, List.sum_cons, ← add_assoc] at whole
    rw [List.length_cons, Nat.cast_add_one, add_div] at few
    obtain ⟨-, close_above⟩ := abs_le.1 close
    obtain ⟨-, q_above⟩ := abs_le.1 q_near
    have small : a + q < 2 := by linarith
    have added := value?_add begun hq nonneg q_nonneg (small.trans (by norm_num))
    have once := abs_rounded_single_sub_le (add_nonneg nonneg q_nonneg) small
    have close' : |rounded .binary32 (a + q) - (b + share w)| ≤ d + 1 / 2 ^ 22 := by
      rw [abs_le] at close q_near once ⊢
      constructor <;> linarith
    obtain ⟨t, ht, t_near⟩ := ih (fun w hw ↦ near w (List.mem_cons_of_mem _ hw)) added
      (rounded_nonneg _ (add_nonneg nonneg q_nonneg)) close'
      (fun w hw ↦ shares w (List.mem_cons_of_mem _ hw)) whole (by linarith)
    refine ⟨t, ht, ?_⟩
    rw [List.map_cons, List.sum_cons, ← add_assoc, List.length_cons, Nat.cast_add_one, add_div]
    linarith

/-- Where the areas together fit a word, the weights are numbers from zero to one, and adding them up in
single precision gives one, but for less than a hundred-thousandth. It does not matter whether any of
the windows has an area. -/
theorem build_weights {ε : Type} (s : ExposureSettings) (boxes : List PixelBox) (log : Log)
    (kept : s.windows boxes ≠ []) (fits : covered (s.windows boxes) ≤ 2 ^ 64 - 1) :
    ∃ windows log',
      (s.build boxes : Logging ε (List ExposureWindow)).run.run log = (.ok windows, log') ∧
      windows = s.windows boxes ∧
      (∀ w ∈ windows, ∃ q, value? w.weight = some q ∧ 0 ≤ q ∧ q ≤ 1) ∧
      totalWeight windows = windows.foldl (fun total w ↦ total + w.weight) (-0.0) ∧
      ∃ t, value? (totalWeight windows) = some t ∧ |t - 1| < 1 / 100000 := by
  refine ⟨_, _, s.run_build boxes log, rfl, ?_⟩
  let found := (boxes.take maxWindows).filterMap s.window?
  have few : found.length ≤ maxWindows :=
    (List.length_filterMap_le _ _).trans (List.length_take_le _ _)
  have weighed : s.windows boxes = found.map fun w ↦
      { w with weight := weight (.ofNat (covered found)) found.length w } := weighted_eq found
  rw [windows, covered_weighted] at fits
  have some_found : found ≠ [] := by
    rintro none
    exact kept (by rw [weighed, none, List.map_nil])
  have near (w : ExposureWindow) (hw : w ∈ found) :=
    weight_near (Nat.lt_of_le_pred (by decide) fits) (List.length_pos_iff.2 some_found) few
      (extent_le_covered hw)
  have zero : value? (-0.0) = some 0 := by decide +kernel
  rw [weighed]
  refine ⟨?_, List.foldl_map, ?_⟩
  · intro w hw
    obtain ⟨v, hv, rfl⟩ := List.mem_map.1 hw
    obtain ⟨q, value, nonneg, le_one, -⟩ := near v hv
    exact ⟨q, value, nonneg, le_one⟩
  · have one := sum_share some_found
    have count : (found.length : ℚ) ≤ 8 := by exact_mod_cast few
    obtain ⟨t, value, close⟩ := exists_sum
      (fun w hw ↦ (near w hw).imp fun q h ↦ ⟨h.1, h.2.1, h.2.2.2⟩) zero le_rfl
      (by simp : |(0 : ℚ) - 0| ≤ 0) (fun w _ ↦ share_nonneg _ _ w) (by rw [zero_add, one])
      (by linarith)
    rw [zero_add, zero_add, one] at close
    refine ⟨t, ?_, by linarith⟩
    rw [totalWeight, List.map_map]
    exact value

theorem build_weights_no_area :
    ∃ windows log',
      (build {} [⟨10, 10, 10, 20⟩, ⟨30, 30, 40, 30⟩, ⟨50, 50, 50, 50⟩] :
        Logging Unit (List ExposureWindow)).run.run #[] = (.ok windows, log') ∧
      windows.length = 3 ∧ covered windows = 0 ∧
      ∃ t, value? (totalWeight windows) = some t ∧ |t - 1| < 1 / 100000 := by
  have kept : windows {} [⟨10, 10, 10, 20⟩, ⟨30, 30, 40, 30⟩, ⟨50, 50, 50, 50⟩] ≠ [] := by
    decide +kernel
  have none : covered (windows {} [⟨10, 10, 10, 20⟩, ⟨30, 30, 40, 30⟩, ⟨50, 50, 50, 50⟩]) = 0 := by
    decide +kernel
  obtain ⟨_, log', built, rfl, -, -, total⟩ :=
    build_weights {} [⟨10, 10, 10, 20⟩, ⟨30, 30, 40, 30⟩, ⟨50, 50, 50, 50⟩] #[] kept (by omega)
  exact ⟨_, log', built, by decide +kernel, none, total⟩

end ExposureSettings

end FaceDecode
