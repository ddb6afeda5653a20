import FaceDecode.Proofs.Detection.Merge
import FaceDecode.Proofs.Detection.Scan
import FaceDecode.Proofs.Number.Encoding
import Mathlib.Data.List.Forall2

namespace FaceDecode

namespace Candidate

variable (f : Frame) (threshold : Float32)

def ofPlace (p : Frame.Place) : Candidate where
  index := f.number p
  probability := f.probability p
  shifts := f.valuesOf p .location
  points := f.valuesOf p .landmarks

variable {f}

theorem met_found {ps : List Frame.Place} (has : ∀ p ∈ ps, f.Has p)
    (ordered : ps.Pairwise fun p q ↦ f.number p < f.number q) (next : Nat)
    (ahead : ∀ p ∈ ps, next ≤ f.number p) :
    met f next (ps.map (found f)) = ps.map fun p ↦ (found f p, p) := by
  induction ps generalizing next with
  | nil => rfl
  | cons p ps ih =>
    rw [List.pairwise_cons] at ordered
    have here : f.places[(found f p).index]? = some p :=
      (f.places_getElem?_eq_some _ p).2 ⟨has p List.mem_cons_self, rfl⟩
    have rest := ih (fun q hq ↦ has q (List.mem_cons_of_mem p hq)) ordered.2 (f.number p + 1)
      ordered.1
    have ahead : next ≤ (found f p).index := ahead p List.mem_cons_self
    rw [List.map_cons, met, here]
    simp only [if_pos ahead]
    exact congrArg _ rest

theorem fillMet_found (fits : f.Fits) {ps : List Frame.Place} (has : ∀ p ∈ ps, f.Has p)
    (ordered : ps.Pairwise fun p q ↦ f.number p < f.number q) :
    fillMet f 0 (ps.map (found f)) = .ok (ps.map (ofPlace f)) := by
  have read : ps.mapM (fun p ↦ (found f p).fillFrom f p) = .ok (ps.map (ofPlace f)) :=
    mapM_eq_pure fun p hp ↦ fillFrom_eq (fits p.scale) (has p hp)
  rw [fillMet, met_found has ordered 0 fun _ _ ↦ Nat.zero_le _, List.mapM_map, List.length_map]
  show ((ps.mapM fun p ↦ (found f p).fillFrom f p) >>= _) = _
  rw [read, List.drop_eq_nil_of_le (List.length_map _).le]
  exact congrArg Except.ok (List.append_nil _)

theorem collect_eq (fits : f.Fits) (buffer : Array Candidate) :
    collect buffer f threshold = .ok ((f.passing threshold).map (ofPlace f)).toArray := by
  have has (p) (h : p ∈ f.passing threshold) := ((f.mem_passing threshold p).1 h).1
  rw [collect, extract_eq threshold fits]
  show (gather f ((f.passing threshold).map (found f)) >>= _) = _
  rw [gather_eq, fillMet_found fits has (f.passing_pairwise threshold)]
  rfl

theorem collect_eq_error (held : f.Held) (wraps : ¬ f.Whole) (buffer : Array Candidate) :
    ∃ e, collect buffer f threshold = .error e := by
  obtain ⟨e, failed⟩ := extract_eq_error threshold held wraps buffer
  refine ⟨e, ?_⟩
  rw [collect, failed]
  rfl

/-- A candidate carries what the tensors hold for an anchor. -/
structure Carries (f : Frame) (p : Frame.Place) (c : Candidate) : Prop where
  index : c.index = f.number p
  probability : c.probability = f.probability p
  shifts : ∀ k : Fin 4, f.value? p .location k = some (c.shifts.get k)
  points : ∀ k : Fin 10, f.value? p .landmarks k = some (c.points.get k)

theorem ofPlace_carries (fits : f.Fits) {p : Frame.Place} (h : f.Has p) :
    Carries f p (ofPlace f p) :=
  ⟨rfl, rfl, f.value?_eq fits h .location, f.value?_eq fits h .landmarks⟩

/-- Collecting gives one candidate for each anchor that passes, in the order of their numbers, and
keeps nothing of the buffer. -/
theorem collect_passing (held : f.Held) (buffer : Array Candidate) :
    (f.Whole →
      (∀ p, f.Has p → ∃ background face,
        f.value? p .confidence 0 = some background ∧ f.value? p .confidence 1 = some face ∧
        f.probability p = faceProbability background face) ∧
      ∃ (kept : Array Candidate) (ps : List Frame.Place),
        collect buffer f threshold = .ok kept ∧
        List.Forall₂ (Carries f) ps kept.toList ∧
        ps.Pairwise (fun p q ↦ f.number p < f.number q) ∧
        (∀ p, p ∈ ps ↔ f.Has p ∧ threshold ≤ f.probability p) ∧
        ∀ c ∈ kept, c.probability.isNaN = false) ∧
    (¬ f.Whole → ∃ e, collect buffer f threshold = .error e) := by
  refine ⟨fun whole ↦ ?_, fun wraps ↦ collect_eq_error threshold held wraps buffer⟩
  have fits := held.fits whole
  have has (p) (h : p ∈ f.passing threshold) := (f.mem_passing threshold p).1 h
  refine ⟨fun p h ↦ ?_, _, f.passing threshold, collect_eq threshold fits buffer, ?_,
    f.passing_pairwise threshold, f.mem_passing threshold, ?_⟩
  · exact ⟨_, _, f.value?_eq fits h .confidence 0, f.value?_eq fits h .confidence 1, rfl⟩
  · rw [List.toList_toArray, List.forall₂_map_right_iff, List.forall₂_same]
    exact fun p hp ↦ ofPlace_carries fits (has p hp).1
  · intro c hc
    rw [List.mem_toArray, List.mem_map] at hc
    obtain ⟨p, hp, rfl⟩ := hc
    exact (Number.not_isNaN_of_le (has p hp).2).2

theorem collect_passing_one_cell :
    (Frame.zeros #v[1, 0, 0]).Held ∧ (Frame.zeros #v[1, 0, 0]).Whole ∧
      ∃ (kept : Array Candidate) (ps : List Frame.Place),
        collect #[] (Frame.zeros #v[1, 0, 0]) 0.5 = .ok kept ∧
        List.Forall₂ (Carries (Frame.zeros #v[1, 0, 0])) ps kept.toList := by
  have held : (Frame.zeros #v[1, 0, 0]).Held := by
    refine Frame.zeros_held fun scale kind ↦ ?_
    cases kind <;> revert scale <;> decide
  have whole : (Frame.zeros #v[1, 0, 0]).Whole := by
    simp only [Frame.Whole, Frame.zeros_cells]
    decide
  obtain ⟨-, kept, ps, collected, carried, -⟩ := (collect_passing 0.5 held #[]).1 whole
  exact ⟨held, whole, kept, ps, collected, carried⟩

/-- The cells of this frame are so many that all its lengths wrap to zero. -/
theorem collect_wrapped_frame :
    ∃ f, Frame.zeros? #v[4611686018427387904, 0, 0] = some f ∧ f.Held ∧
      ∀ buffer threshold, ¬ ∃ kept, collect buffer f threshold = .ok kept := by
  have empty (scale : Fin scaleCount) (kind : TensorKind) :
      kind.length (#v[4611686018427387904, 0, 0].get scale) ≤ Tensor.maxLength := by
    cases kind <;> revert scale <;> decide
  have wraps : ¬ (Frame.zeros #v[4611686018427387904, 0, 0]).Whole := by
    simp only [Frame.Whole, Frame.zeros_cells]
    decide
  refine ⟨_, Frame.zeros?_eq empty, Frame.zeros_held empty, ?_⟩
  rintro buffer threshold ⟨kept, collected⟩
  obtain ⟨e, failed⟩ := collect_eq_error threshold (Frame.zeros_held empty) wraps buffer
  rw [collected] at failed
  cases failed

end Candidate

end FaceDecode
