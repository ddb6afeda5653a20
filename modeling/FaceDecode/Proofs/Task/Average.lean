import FaceDecode.Proofs.Steps
import FaceDecode.Task.Latency
import Mathlib.Algebra.Order.BigOperators.Group.List
import Mathlib.Data.Set.Finite.Lemmas
import Mathlib.Tactic.Ring

namespace FaceDecode

namespace Duration

variable {d : Duration} {s n : Nat}

/-- A duration in whole nanoseconds. -/
def span (d : Duration) : Nat := d.seconds.toNat * nanosPerSecond + d.nanoseconds

def limit : Nat := UInt64.size * nanosPerSecond

def total : List Duration → Nat
  | [] => 0
  | d :: ds => d.span + total ds

theorem span_ofNat (short : s < UInt64.size) (lt : n < nanosPerSecond) :
    (⟨.ofNat s, n, lt⟩ : Duration).span = s * nanosPerSecond + n := by
  rw [span, UInt64.toNat_ofNat_of_lt' short]

theorem span_div (d : Duration) : d.span / nanosPerSecond = d.seconds.toNat := by
  have short := d.nanoseconds_lt
  unfold span nanosPerSecond at *
  omega

theorem span_mod (d : Duration) : d.span % nanosPerSecond = d.nanoseconds := by
  have short := d.nanoseconds_lt
  unfold span nanosPerSecond at *
  omega

theorem span_lt (d : Duration) : d.span < limit := by
  have seconds := d.seconds.toNat_lt_size
  have nanoseconds := d.nanoseconds_lt
  unfold span limit nanosPerSecond at *
  omega

theorem span_inj {d' : Duration} : d.span = d'.span ↔ d = d' := by
  constructor
  · intro same
    have seconds : d.seconds = d'.seconds := by
      rw [← UInt64.toNat_inj, ← span_div, ← span_div, same]
    have nanoseconds : d.nanoseconds = d'.nanoseconds := by rw [← span_mod, ← span_mod, same]
    cases d
    cases d'
    cases seconds
    cases nanoseconds
    rfl
  · rintro rfl
    rfl

theorem exceeds_iff {d' : Duration} : d.exceeds d' = true ↔ d'.span < d.span := by
  have short := d.nanoseconds_lt
  have short' := d'.nanoseconds_lt
  rw [exceeds, Bool.or_eq_true, Bool.and_eq_true, decide_eq_true_iff, decide_eq_true_iff, beq_iff_eq,
    UInt64.lt_iff_toNat_lt, ← UInt64.toNat_inj]
  unfold span nanosPerSecond at *
  omega

theorem exists_span (h : n < limit) : ∃ d : Duration, d.span = n := by
  have seconds : n / nanosPerSecond < UInt64.size := by
    unfold limit nanosPerSecond at *
    omega
  refine ⟨⟨.ofNat (n / nanosPerSecond), n % nanosPerSecond, mod_lt n⟩, ?_⟩
  rw [span_ofNat seconds]
  exact Nat.div_add_mod' n nanosPerSecond

/-- Seconds and nanoseconds together are a duration just where it does not get too long. -/
theorem ofParts_eq_ok : ofParts s n = .ok d ↔ d.span = s * nanosPerSecond + n := by
  have carried : (s * nanosPerSecond + n) / nanosPerSecond = s + n / nanosPerSecond := by
    unfold nanosPerSecond
    omega
  have left : (s * nanosPerSecond + n) % nanosPerSecond = n % nanosPerSecond := by
    unfold nanosPerSecond
    omega
  simp only [ofParts]
  split
  case isTrue fits =>
    rw [Except.ok.injEq, ← span_inj, span_ofNat fits, ← carried, ← left, Nat.div_add_mod', eq_comm]
  case isFalse long =>
    refine iff_of_false nofun fun same ↦ long ?_
    rw [← carried, ← same, span_div]
    exact d.seconds.toNat_lt_size

theorem add_eq_ok {a b : Duration} : a.add b = .ok d ↔ d.span = a.span + b.span := by
  have parts : (a.seconds.toNat + b.seconds.toNat) * nanosPerSecond +
      (a.nanoseconds + b.nanoseconds) = a.span + b.span := by
    rw [span, span, Nat.add_mul]
    omega
  rw [add, ofParts_eq_ok, parts]

theorem foldlM_add_eq_ok {ds : List Duration} {start : Duration} :
    ds.foldlM add start = .ok d ↔ d.span = start.span + total ds := by
  induction ds generalizing start with
  | nil =>
    rw [List.foldlM_nil, total, Nat.add_zero, span_inj]
    show Except.ok start = .ok d ↔ _
    rw [Except.ok.injEq, eq_comm]
  | cons next ds ih =>
    rw [List.foldlM_cons, bind_eq_ok, total]
    simp only [add_eq_ok, ih]
    constructor
    · rintro ⟨sum, sum_eq, d_eq⟩
      omega
    · intro d_eq
      have bound := d.span_lt
      obtain ⟨sum, sum_eq⟩ := exists_span (n := start.span + next.span) (by omega)
      exact ⟨sum, sum_eq, by omega⟩

theorem sum_eq_ok {ds : List Duration} : sum ds = .ok d ↔ d.span = total ds := by
  have nothing : zero.span = 0 := by decide
  rw [sum, foldlM_add_eq_ok, nothing, Nat.zero_add]

theorem span_divide (d : Duration) (h : 0 < n) : (d.divide n).span = d.span / n := by
  let rest := d.seconds.toNat % n * nanosPerSecond + d.nanoseconds % n
  have seconds := Nat.div_add_mod d.seconds.toNat n
  have nanoseconds := Nat.div_add_mod d.nanoseconds n
  have parts : d.span = n * (d.seconds.toNat / n * nanosPerSecond + d.nanoseconds / n) + rest := by
    calc d.span = (n * (d.seconds.toNat / n) + d.seconds.toNat % n) * nanosPerSecond +
          (n * (d.nanoseconds / n) + d.nanoseconds % n) := by rw [seconds, nanoseconds, span]
      _ = _ := by ring
  have quotient : d.span / n =
      d.seconds.toNat / n * nanosPerSecond + (d.nanoseconds / n + rest / n) := by
    rw [parts, Nat.mul_add_div h, Nat.add_assoc]
  have short : d.nanoseconds / n + rest / n < nanosPerSecond := by
    refine Nat.lt_of_mul_lt_mul_left (a := n) ?_
    calc n * (d.nanoseconds / n + rest / n)
        ≤ n * (d.nanoseconds / n) + rest := by
          rw [Nat.mul_add]
          exact Nat.add_le_add_left (Nat.mul_div_le rest n) _
      _ = d.seconds.toNat % n * nanosPerSecond + d.nanoseconds := by omega
      _ < (d.seconds.toNat % n + 1) * nanosPerSecond := by
          rw [Nat.add_mul, Nat.one_mul]
          exact Nat.add_lt_add_left d.nanoseconds_lt _
      _ ≤ n * nanosPerSecond := Nat.mul_le_mul_right _ (Nat.mod_lt _ h)
  have whole : d.seconds.toNat / n < UInt64.size :=
    Nat.lt_of_le_of_lt (Nat.div_le_self _ _) d.seconds.toNat_lt_size
  rw [quotient, divide, span_ofNat whole]
  exact congrArg _ (Nat.mod_eq_of_lt short)

theorem total_eq_sum (ds : List Duration) : total ds = (ds.map span).sum := by
  induction ds with
  | nil => rfl
  | cons d ds ih => rw [total, List.map_cons, List.sum_cons, ih]

theorem total_perm {ds ds' : List Duration} (same : ds.Perm ds') : total ds = total ds' := by
  rw [total_eq_sum, total_eq_sum]
  exact (same.map span).sum_eq

theorem sum_perm {ds ds' : List Duration} (same : ds.Perm ds') : sum ds = sum ds' := by
  cases added : sum ds with
  | ok d => rw [sum_eq_ok.2 (total_perm same ▸ sum_eq_ok.1 added)]
  | error =>
    cases added' : sum ds' with
    | ok d => rw [sum_eq_ok.2 (total_perm same.symm ▸ sum_eq_ok.1 added')] at added; cases added
    | error => rfl

theorem total_le {ds : List Duration} (h : ∀ d ∈ ds, d.span ≤ n) : total ds ≤ ds.length * n := by
  rw [total_eq_sum, ← List.length_map span]
  exact List.sum_le_card_nsmul _ n (List.forall_mem_map.2 h)

theorem le_total {ds : List Duration} (h : ∀ d ∈ ds, n ≤ d.span) : ds.length * n ≤ total ds := by
  rw [total_eq_sum, ← List.length_map span]
  exact List.card_nsmul_le_sum _ n (List.forall_mem_map.2 h)

theorem mean_bounds {ds : List Duration} {low high : Nat} (some_run : ds ≠ [])
    (within : ∀ d ∈ ds, low ≤ d.span ∧ d.span ≤ high) :
    low ≤ total ds / ds.length ∧ total ds / ds.length ≤ high := by
  have pos : 0 < ds.length := List.length_pos_iff.2 some_run
  constructor
  · rw [Nat.le_div_iff_mul_le pos, Nat.mul_comm]
    exact le_total fun d hd ↦ (within d hd).1
  · apply Nat.div_le_of_le_mul
    exact total_le fun d hd ↦ (within d hd).2

end Duration

theorem measuredRuns_of_few {runs : List Duration} (few : runs.length ≤ warmupRuns) :
    measuredRuns runs = runs := if_neg (Nat.not_lt.2 few)

theorem measuredRuns_of_many {runs : List Duration} (many : warmupRuns < runs.length) :
    measuredRuns runs = runs.drop warmupRuns := if_pos many

theorem measuredRuns_ne_nil {runs : List Duration} (h : runs ≠ []) : measuredRuns runs ≠ [] := by
  unfold measuredRuns
  split
  case isTrue many => rwa [Ne, List.drop_eq_nil_iff, Nat.not_le]
  case isFalse => exact h

theorem length_measuredRuns_le (runs : List Duration) :
    (measuredRuns runs).length ≤ runs.length := by
  unfold measuredRuns
  split
  case isTrue =>
    rw [List.length_drop]
    exact Nat.sub_le _ _
  case isFalse => exact Nat.le_refl _

theorem averageLatency_perm {runs runs' : List Duration}
    (same : (measuredRuns runs').Perm (measuredRuns runs)) :
    averageLatency runs' = averageLatency runs := by
  rw [averageLatency, averageLatency, same.length_eq, Duration.sum_perm same]

theorem averageLatency_eq_none_iff {runs : List Duration} :
    averageLatency runs = .ok none ↔ runs = [] ∨ UInt32.size ≤ (measuredRuns runs).length := by
  have counted : 0 < (measuredRuns runs).length ↔ runs ≠ [] := by
    rw [List.length_pos_iff]
    refine ⟨fun some_run none ↦ some_run ?_, measuredRuns_ne_nil⟩
    rw [none]
    rfl
  simp only [averageLatency, counted]
  split
  case isTrue h =>
    refine iff_of_false ?_ (not_or.2 ⟨h.1, Nat.not_le.2 h.2⟩)
    cases Duration.sum (measuredRuns runs) <;> nofun
  case isFalse h =>
    refine iff_of_true rfl ?_
    rwa [not_and_or, not_not, Nat.not_lt] at h

theorem exists_averageLatency {runs : List Duration} (some_run : runs ≠ [])
    (few : (measuredRuns runs).length < UInt32.size)
    (fits : Duration.total (measuredRuns runs) < Duration.limit) :
    ∃ mean, averageLatency runs = .ok (some mean) ∧
      mean.span = Duration.total (measuredRuns runs) / (measuredRuns runs).length := by
  obtain ⟨total, total_eq⟩ := Duration.exists_span fits
  have counted : 0 < (measuredRuns runs).length :=
    List.length_pos_iff.2 (measuredRuns_ne_nil some_run)
  refine ⟨total.divide (measuredRuns runs).length, ?_, ?_⟩
  · rw [averageLatency, if_pos ⟨counted, few⟩, Duration.sum_eq_ok.2 total_eq]
    rfl
  · rw [Duration.span_divide _ counted, total_eq]

theorem span_of_averageLatency {runs : List Duration} {mean : Duration}
    (averaged : averageLatency runs = .ok (some mean)) :
    runs ≠ [] ∧ mean.span = Duration.total (measuredRuns runs) / (measuredRuns runs).length := by
  simp only [averageLatency] at averaged
  split at averaged
  case isTrue counted =>
    cases added : Duration.sum (measuredRuns runs) with
    | error e =>
      rw [added] at averaged
      cases averaged
    | ok total =>
      rw [added] at averaged
      cases averaged
      refine ⟨?_, ?_⟩
      · rintro rfl
        exact absurd counted.1 (by decide)
      · rw [Duration.span_divide _ counted.1, Duration.sum_eq_ok.1 added]
  case isFalse => cases averaged

theorem exceeds_frameBudget {d : Duration} : d.exceeds frameBudget = true ↔ 33000000 < d.span := by
  have budget : frameBudget.span = 33000000 := by decide
  rw [Duration.exceeds_iff, budget]

theorem isSome_slowFrameLine? {index : Nat} {time : Duration} :
    (slowFrameLine? index time).isSome ↔ 33000000 < time.span := by
  rw [← exceeds_frameBudget, slowFrameLine?]
  split
  case isTrue late => exact iff_of_true rfl late
  case isFalse within => exact iff_of_false nofun within

theorem level_averageLine {average : Duration} :
    (averageLine average).level = .warn ↔ 33000000 < average.span := by
  rw [← exceeds_frameBudget, averageLine]
  split
  case isTrue late => exact iff_of_true rfl late
  case isFalse within => exact iff_of_false nofun within

/-- Runs are warned of just where those that count take a nanosecond more than the budget of a frame,
each on the average. -/
theorem averageLine_warns {runs : List Duration} {average : Duration}
    (averaged : averageLatency runs = .ok (some average)) :
    (averageLine average).level = .warn ↔
      33000001 * (measuredRuns runs).length ≤ Duration.total (measuredRuns runs) := by
  obtain ⟨some_run, mean⟩ := span_of_averageLatency averaged
  have counted : 0 < (measuredRuns runs).length :=
    List.length_pos_iff.2 (measuredRuns_ne_nil some_run)
  rw [level_averageLine, mean, ← Nat.le_div_iff_mul_le counted]
  exact Nat.succ_le_iff.symm

example : averageLine ⟨0, 33004999, by decide⟩ =
    ⟨.warn, "平均推理时间: 33.00ms，超出帧预算 33.00ms"⟩ := by
  cbv

/-- Where the sum of the runs that count is a duration, there is an average of any runs, and it is the
whole part of the mean in nanoseconds. The first two runs do not count where there are others. -/
theorem averageLatency_mean {runs : List Duration} (few : runs.length < UInt32.size)
    (fits : Duration.total (measuredRuns runs) < Duration.limit) :
    (averageLatency runs = .ok none ↔ runs = []) ∧
    (runs ≠ [] → ∃ mean, averageLatency runs = .ok (some mean) ∧
      mean.span = Duration.total (measuredRuns runs) / (measuredRuns runs).length ∧
      ∃ least ∈ measuredRuns runs, ∃ greatest ∈ measuredRuns runs,
        (∀ run ∈ measuredRuns runs, least.span ≤ run.span ∧ run.span ≤ greatest.span) ∧
        least.span ≤ mean.span ∧ mean.span ≤ greatest.span) ∧
    (runs.length ≤ 2 → measuredRuns runs = runs) ∧
    (2 < runs.length → measuredRuns runs = runs.drop 2) ∧
    (∀ runs', (measuredRuns runs').Perm (measuredRuns runs) →
      averageLatency runs' = averageLatency runs) ∧
    ∀ runs', 2 < runs.length → runs'.length = runs.length → runs'.drop 2 = runs.drop 2 →
      averageLatency runs' = averageLatency runs := by
  have short := Nat.lt_of_le_of_lt (length_measuredRuns_le runs) few
  refine ⟨?_, fun some_run ↦ ?_, measuredRuns_of_few, measuredRuns_of_many,
    fun runs' ↦ averageLatency_perm, fun runs' many length_eq same ↦ ?_⟩
  · rw [averageLatency_eq_none_iff, or_iff_left (Nat.not_le.2 short)]
  · obtain ⟨mean, found, mean_eq⟩ := exists_averageLatency some_run short fits
    have measured := measuredRuns_ne_nil some_run
    obtain ⟨least, least_mem, least_le⟩ := Set.exists_min_image {run | run ∈ measuredRuns runs}
      Duration.span (List.finite_toSet _) (List.exists_mem_of_ne_nil _ measured)
    obtain ⟨greatest, greatest_mem, le_greatest⟩ := Set.exists_max_image
      {run | run ∈ measuredRuns runs} Duration.span (List.finite_toSet _)
      (List.exists_mem_of_ne_nil _ measured)
    have within (run : Duration) (h : run ∈ measuredRuns runs) :
        least.span ≤ run.span ∧ run.span ≤ greatest.span := ⟨least_le run h, le_greatest run h⟩
    have bounds := Duration.mean_bounds measured within
    rw [← mean_eq] at bounds
    exact ⟨mean, found, mean_eq, least, least_mem, greatest, greatest_mem, within, bounds⟩
  · apply averageLatency_perm
    rw [measuredRuns_of_many many, measuredRuns_of_many (length_eq ▸ many), warmupRuns, same]

theorem averageLatency_mean_carried :
    ∃ runs : List Duration, runs.length < UInt32.size ∧
      Duration.total (measuredRuns runs) < Duration.limit ∧ (measuredRuns runs).map (·.span) =
        [1999999999, 2000000000, 2] ∧
      averageLatency runs = .ok (some ⟨1, 333333333, by decide⟩) := by
  let runs : List Duration := [⟨9, 0, by decide⟩, ⟨0, 1, by decide⟩, ⟨1, 999999999, by decide⟩,
    ⟨2, 0, by decide⟩, ⟨0, 2, by decide⟩]
  have few : runs.length < UInt32.size := by decide
  have fits : Duration.total (measuredRuns runs) < Duration.limit := by decide
  obtain ⟨-, averaged, -⟩ := averageLatency_mean few fits
  obtain ⟨mean, found, mean_eq, -⟩ := averaged (List.cons_ne_nil _ _)
  have value : Duration.total (measuredRuns runs) / (measuredRuns runs).length =
      (⟨1, 333333333, by decide⟩ : Duration).span := by decide
  rw [Duration.span_inj.1 (mean_eq.trans value)] at found
  exact ⟨runs, few, fits, rfl, found⟩

end FaceDecode
