import FaceDecode.Proofs.Detection.Layout

namespace FaceDecode

namespace Candidate

variable {f : Frame}

/-- Candidates that one pass over the anchors meets: their numbers rise and belong to anchors. -/
structure Rising (f : Frame) (cs : List Candidate) : Prop where
  rising : cs.Pairwise fun c d ↦ c.index < d.index
  counted : ∀ c ∈ cs, c.index < f.anchorCount

/-- A candidate with the values of its own anchor, and otherwise as it was. -/
structure Filled (f : Frame) (c c' : Candidate) : Prop where
  index : c'.index = c.index
  probability : c'.probability = c.probability
  values : ∃ p, f.Has p ∧ f.number p = c.index ∧
    (∀ k : Fin 4, f.value? p .location k = some (c'.shifts.get k)) ∧
    ∀ k : Fin 10, f.value? p .landmarks k = some (c'.points.get k)

/-- Whether no candidate belongs to an anchor of a scale with so many cells that the number of their
confidences wraps. -/
def Readable (f : Frame) (cs : List Candidate) : Prop :=
  ∀ c ∈ cs, ∀ p, f.Has p → f.number p = c.index → 4 * (f.scales.get p.scale).cells < UInt64.size

theorem met_append_drop (f : Frame) (next : Nat) (cs : List Candidate) :
    (met f next cs).map Prod.fst ++ cs.drop (met f next cs).length = cs := by
  fun_induction met f next cs with
  | case1 => rfl
  | case2 => rfl
  | case3 next c cs p there ahead ih => exact congrArg (c :: ·) ih
  | case4 => rfl

theorem has_of_mem_met {next : Nat} {cs : List Candidate} {c : Candidate} {p : Frame.Place}
    (h : (c, p) ∈ met f next cs) : f.Has p ∧ f.number p = c.index ∧ next ≤ c.index := by
  fun_induction met f next cs with
  | case1 => cases h
  | case2 => cases h
  | case3 next d cs q there ahead ih =>
    rcases List.mem_cons.1 h with same | later
    · cases same
      obtain ⟨has, number⟩ := (f.places_getElem?_eq_some _ p).1 there
      exact ⟨has, number, ahead⟩
    · obtain ⟨has, number, behind⟩ := ih later
      exact ⟨has, number, by omega⟩
  | case4 => cases h

theorem met_pairwise (f : Frame) (next : Nat) (cs : List Candidate) :
    (met f next cs).Pairwise fun a b ↦ a.1.index < b.1.index := by
  fun_induction met f next cs with
  | case1 => exact .nil
  | case2 => exact .nil
  | case3 next c cs p there ahead ih =>
    exact .cons (fun a ha ↦ (has_of_mem_met ha).2.2) ih
  | case4 => exact .nil

theorem rising_met (f : Frame) (cs : List Candidate) : Rising f ((met f 0 cs).map Prod.fst) := by
  refine ⟨List.pairwise_map.2 (met_pairwise f 0 cs), fun c hc ↦ ?_⟩
  obtain ⟨⟨c, p⟩, hp, rfl⟩ := List.mem_map.1 hc
  obtain ⟨has, number, -⟩ := has_of_mem_met hp
  rw [← number]
  exact has.number_lt

theorem rising_single {c : Candidate} (counted : c.index < f.anchorCount) : Rising f [c] :=
  ⟨List.pairwise_singleton _ c, List.forall_mem_singleton.2 counted⟩

/-- No candidate that rises from those before it, and belongs to an anchor, is missed. -/
theorem prefix_met {next : Nat} {cs longer : List Candidate} (front : longer <+: cs)
    (rising : Rising f longer) (ahead : ∀ c ∈ longer, next ≤ c.index) :
    longer <+: (met f next cs).map Prod.fst := by
  induction cs generalizing next longer with
  | nil =>
    rw [List.prefix_nil.1 front]
    exact List.nil_prefix
  | cons c cs ih =>
    rcases List.prefix_cons_iff.1 front with rfl | ⟨rest, rfl, shorter⟩
    · exact List.nil_prefix
    · obtain ⟨behind, rising'⟩ := List.pairwise_cons.1 rising.rising
      have counted := rising.counted c List.mem_cons_self
      rw [← f.length_places] at counted
      have later := ih shorter ⟨rising', fun d hd ↦ rising.counted d (List.mem_cons_of_mem c hd)⟩ behind
      rw [met, List.getElem?_eq_getElem counted]
      simp only [if_pos (ahead c List.mem_cons_self)]
      rw [List.map_cons, List.prefix_cons_inj]
      exact later

theorem filled_fillAt {c : Candidate} {p : Frame.Place}
    (fits : ∀ kind : TensorKind, kind.channels * (f.scales.get p.scale).cells < UInt64.size)
    (has : f.Has p) (number : f.number p = c.index) : Filled f c (c.fillAt f p) where
  index := rfl
  probability := rfl
  values := ⟨p, has, number, Tensor.value?_eq _ (fits .location) has p.anchor.2,
    Tensor.value?_eq _ (fits .landmarks) has p.anchor.2⟩

theorem fillMet_of_readable (held : f.Held) {cs : List Candidate}
    (readable : Readable f ((met f 0 cs).map Prod.fst)) :
    ∃ filled, fillMet f 0 cs = .ok (filled ++ cs.drop (met f 0 cs).length) ∧
      List.Forall₂ (Filled f) ((met f 0 cs).map Prod.fst) filled := by
  have each : ∀ a ∈ met f 0 cs, a.1.fillFrom f a.2 = .ok (a.1.fillAt f a.2) ∧
      Filled f a.1 (a.1.fillAt f a.2) := by
    rintro ⟨c, p⟩ h
    obtain ⟨has, number, -⟩ := has_of_mem_met h
    have whole := readable c (List.mem_map_of_mem h) p has number
    have fits (kind : TensorKind) := kind.counted_of_held (held p.scale .confidence) whole
    exact ⟨fillFrom_eq fits has, filled_fillAt fits has number⟩
  refine ⟨(met f 0 cs).map fun a ↦ a.1.fillAt f a.2, ?_, ?_⟩
  · rw [fillMet, mapM_eq_pure fun a h ↦ (each a h).1]
    rfl
  · rw [List.forall₂_map_left_iff, List.forall₂_map_right_iff, List.forall₂_same]
    exact fun a h ↦ (each a h).2

theorem fillMet_eq_error (held : f.Held) (few : ∀ scale, (f.scales.get scale).cells < UInt64.size)
    {cs : List Candidate} (unreadable : ¬ Readable f ((met f 0 cs).map Prod.fst)) :
    ∃ e, fillMet f 0 cs = .error e := by
  unfold Readable at unreadable
  push Not at unreadable
  obtain ⟨c, hc, p, has, number, wraps⟩ := unreadable
  obtain ⟨⟨c, q⟩, met, rfl⟩ := List.mem_map.1 hc
  obtain ⟨has', number', -⟩ := has_of_mem_met met
  obtain rfl := Frame.Has.eq_of_number has' has (number'.trans number.symm)
  obtain ⟨e, failed⟩ :=
    ScaleTensors.fill_eq_error (few q.scale) (held q.scale) wraps q.cell q.anchor c
  obtain ⟨e', failed'⟩ := mapM_eq_error (g := fun a ↦ a.1.fillFrom f a.2) met failed
  refine ⟨e', ?_⟩
  rw [fillMet, failed']
  rfl

/-- Gathering fills in the candidates of the longest part at the head whose numbers rise and belong to
anchors, each with the values of its anchor, and leaves all others as they are. It fails only where
one of that part belongs to a scale whose lengths wrap. -/
theorem gather_fills (held : f.Held) (few : ∀ scale, (f.scales.get scale).cells < UInt64.size)
    (cs : List Candidate) :
    ∃ front back, cs = front ++ back ∧ Rising f front ∧
      (∀ longer, longer <+: cs → Rising f longer → longer <+: front) ∧
      (Readable f front → ∃ filled, gather f cs = .ok (filled ++ back) ∧
        List.Forall₂ (Filled f) front filled) ∧
      (¬ Readable f front → ∃ e, gather f cs = .error e) := by
  refine ⟨(met f 0 cs).map Prod.fst, _, (met_append_drop f 0 cs).symm, rising_met f cs,
    fun longer front rising ↦ prefix_met front rising fun _ _ ↦ Nat.zero_le _, ?_, ?_⟩
  · rw [gather_eq]
    exact fillMet_of_readable held
  · rw [gather_eq]
    exact fillMet_eq_error held few

theorem gather_fills_two_falling :
    let c : Candidate := { index := 1, probability := 0.5, shifts := .replicate 4 (-1) }
    let d : Candidate := { index := 0, probability := 0.75, shifts := .replicate 4 (-1) }
    ∃ f, Frame.zeros? #v[1, 0, 0] = some f ∧ f.Held ∧
      (∀ scale, (f.scales.get scale).cells < UInt64.size) ∧ Readable f [c] ∧
      ∃ filled, gather f [c, d] = .ok [filled, d] ∧ Filled f c filled := by
  intro c d
  have small (scale : Fin scaleCount) (kind : TensorKind) :
      kind.length (#v[1, 0, 0].get scale) ≤ Tensor.maxLength := by
    cases kind <;> revert scale <;> decide
  have few : ∀ scale, ((Frame.zeros #v[1, 0, 0]).scales.get scale).cells < UInt64.size := by
    simp only [Frame.zeros_cells]
    decide
  have readable (cs : List Candidate) : Readable (Frame.zeros #v[1, 0, 0]) cs := by
    intro c _ p _ _
    rw [Frame.zeros_cells]
    generalize p.scale = scale
    revert scale
    decide
  have first : Rising (Frame.zeros #v[1, 0, 0]) [c] := by
    refine rising_single ?_
    rw [Frame.anchorCount, Frame.cells_zeros]
    decide
  obtain ⟨front, back, split, rising, longest, fills, -⟩ :=
    gather_fills (Frame.zeros_held small) few [c, d]
  obtain ⟨filled, gathered, each⟩ := fills (readable front)
  obtain ⟨rest, rfl⟩ := longest [c] (List.cons_prefix_cons.2 ⟨rfl, List.nil_prefix⟩) first
  have alone : rest = [] := by
    cases rest with
    | nil => rfl
    | cons c' rest =>
      obtain ⟨same, -⟩ : d = c' ∧ [] = rest ++ back := by simpa using split
      have higher := (List.pairwise_cons.1 rising.rising).1 c' List.mem_cons_self
      rw [← same] at higher
      exact absurd higher (by decide)
  subst alone
  obtain ⟨c', _, has, none, rfl⟩ := List.forall₂_cons_left_iff.1 each
  cases none
  obtain rfl : [d] = back := by simpa using split
  exact ⟨_, Frame.zeros?_eq small, Frame.zeros_held small, few, readable [c], c', gathered, has⟩

/-- The cells of this frame are so many that all its lengths wrap to zero, so the values of its first
anchor cannot be read. -/
theorem gather_wrapped_frame :
    ∃ f, Frame.zeros? #v[4611686018427387904, 0, 0] = some f ∧ f.Held ∧
      Rising f [{ index := 0, probability := 0.5 }] ∧
      ¬ ∃ filled, gather f [{ index := 0, probability := 0.5 }] = .ok filled := by
  have empty (scale : Fin scaleCount) (kind : TensorKind) :
      kind.length (#v[4611686018427387904, 0, 0].get scale) ≤ Tensor.maxLength := by
    cases kind <;> revert scale <;> decide
  have held := Frame.zeros_held empty
  have few : ∀ scale, ((Frame.zeros #v[4611686018427387904, 0, 0]).scales.get scale).cells <
      UInt64.size := by
    simp only [Frame.zeros_cells]
    decide
  have rising : Rising (Frame.zeros #v[4611686018427387904, 0, 0])
      [{ index := 0, probability := 0.5 }] := by
    refine rising_single ?_
    rw [Frame.anchorCount, Frame.cells_zeros]
    decide
  refine ⟨_, Frame.zeros?_eq empty, held, rising, ?_⟩
  rintro ⟨filled, gathered⟩
  have met := (prefix_met (List.prefix_refl _) rising fun _ _ ↦ Nat.zero_le _).subset
    List.mem_cons_self
  obtain ⟨e, failed⟩ := fillMet_eq_error held few fun readable ↦ by
    have first := readable _ met ⟨0, 0, 0⟩
    simp only [Frame.Has, Frame.zeros_cells] at first
    exact absurd (first (by decide) rfl) (by decide)
  rw [gather_eq, failed] at gathered
  cases gathered

end Candidate

end FaceDecode
