import FaceDecode.Proofs.Detection.Merge
import FaceDecode.Proofs.Detection.Scan
import FaceDecode.Proofs.Tensor.Writing

namespace FaceDecode

theorem ofFnM_eq_error {ε α : Type} {n : Nat} {f : Fin n → Except ε α} {k : Fin n} {e : ε}
    (h : f k = .error e) : ∃ e', Vector.ofFnM f = .error e' := by
  induction n with
  | zero => exact k.elim0
  | succ n ih =>
    rw [Vector.ofFnM_succ]
    cases front : Vector.ofFnM fun i : Fin n ↦ f i.castSucc with
    | error e' => exact ⟨e', rfl⟩
    | ok as =>
      cases k using Fin.lastCases with
      | last => exact ⟨e, by rw [h]; rfl⟩
      | cast k =>
        obtain ⟨e', failed⟩ := ih (f := fun i ↦ f i.castSucc) h
        rw [front] at failed
        cases failed

namespace ScaleTensors

variable {s : ScaleTensors} {cell anchor : Nat}

theorem fill_eq_error (few : s.cells < UInt64.size) (held : s.Held)
    (wraps : UInt64.size ≤ TensorKind.confidence.channels * s.cells) (cell anchor : Nat)
    (c : Candidate) : ∃ e, c.fill s cell anchor = .error e := by
  obtain ⟨k, outside⟩ :=
    Tensor.exists_outside few (held .location) (held .confidence) wraps cell anchor
  have missed : s.loc.get (Tensor.index .location s.cells cell anchor k) = .error _ :=
    dif_neg (Nat.not_lt_of_le outside)
  obtain ⟨e, failed⟩ := ofFnM_eq_error
    (f := fun k : Fin (TensorKind.width .location) ↦
      s.loc.get (Tensor.index .location s.cells cell anchor k)) missed
  refine ⟨e, ?_⟩
  rw [Candidate.fill, Tensor.read, failed]
  rfl

theorem rows_get (fits : TensorKind.confidence.channels * s.cells < UInt64.size) :
    ∃ rows, s.rows = .ok rows ∧ ∀ cell < s.cells, ∀ anchor : Fin anchorsPerCell,
      (rows.background.get anchor).get cell =
        .ok (((s.tensor .confidence).valuesOf cell anchor).get ⟨0, Nat.zero_lt_two⟩) ∧
      (rows.face.get anchor).get cell =
        .ok (((s.tensor .confidence).valuesOf cell anchor).get ⟨1, Nat.one_lt_two⟩) := by
  obtain ⟨rows, cut, spec⟩ := rows_spec fits
  refine ⟨rows, cut, fun cell hc anchor ↦ ?_⟩
  obtain ⟨background, face⟩ := spec cell hc anchor
  exact ⟨Row.get_eq_ok (background.trans (s.conf.value?_eq fits hc anchor.2 ⟨0, _⟩)),
    Row.get_eq_ok (face.trans (s.conf.value?_eq fits hc anchor.2 ⟨1, _⟩))⟩

open Writing in
/-- Whatever is written to a scale of zeros, and in whatever order, both scans read for each anchor
what was written last for it, and zero where nothing was. With so many cells that the number of their
confidences wraps, nothing can be written and nothing can be read. -/
theorem reads_last_written {cells : Nat} (made : zeros? cells = some s) (few : cells < UInt64.size) :
    (4 * cells < UInt64.size → ∀ ws : List Writing, (∀ w ∈ ws, w.Within cells) →
      ∃ s' rows, s.writeAll ws = .ok s' ∧ s'.cells = cells ∧ s'.rows = .ok rows ∧
        ∀ cell < cells, ∀ anchor : Fin anchorsPerCell,
          (rows.background.get anchor).get cell =
            .ok ((last ws .confidence cell anchor).get ⟨0, Nat.zero_lt_two⟩) ∧
          (rows.face.get anchor).get cell =
            .ok ((last ws .confidence cell anchor).get ⟨1, Nat.one_lt_two⟩) ∧
          ∀ c : Candidate, c.fill s' cell anchor = .ok { c with
            shifts := last ws .location cell anchor
            points := last ws .landmarks cell anchor }) ∧
    (UInt64.size ≤ 4 * cells →
      (∀ w : Writing, ∃ e, s.write w.cell w.anchor w.kind w.values = .error e) ∧
      (∃ e, s.rows = .error e) ∧
      ∀ (cell anchor : Nat) (c : Candidate), ∃ e, c.fill s cell anchor = .error e) := by
  have held := held_of_zeros? made
  obtain rfl := eq_zeros_of_zeros? made
  refine ⟨fun whole ws within ↦ ?_, fun wraps ↦ ⟨fun w ↦ ?_, ?_, fun cell anchor c ↦ ?_⟩⟩
  · have fits (kind : TensorKind) : kind.channels * cells < UInt64.size :=
      kind.counted_of_held (held .confidence) whole
    obtain ⟨s', written, same, holds⟩ := writeAll_spec fits within (valuesOf_zeros cells)
    have same : s'.cells = cells := same
    rw [← same] at fits
    obtain ⟨rows, cut, reads⟩ := rows_get (fits .confidence)
    refine ⟨s', rows, written, same, cut, fun cell hc anchor ↦ ?_⟩
    have hc' : cell < s'.cells := same ▸ hc
    obtain ⟨background, face⟩ := reads cell hc' anchor
    rw [holds .confidence cell anchor hc] at background face
    refine ⟨background, face, fun c ↦ ?_⟩
    rw [fill_eq fits hc' anchor.2, holds .location cell anchor hc, holds .landmarks cell anchor hc]
  · exact write_eq_error few held wraps w.cell w.anchor w.kind w.values
  · exact rows_eq_error (held .confidence) wraps
  · exact fill_eq_error few held wraps cell anchor c

open Writing in
theorem reads_last_written_four_cells :
    ∃ s s' rows, zeros? 4 = some s ∧
      s.writeAll [⟨2, 1, .confidence, #v[-1, 1]⟩, ⟨3, 1, .location, #v[1, 2, 3, 4]⟩,
        ⟨2, 1, .confidence, #v[5, 6]⟩, ⟨2, 0, .confidence, #v[7, 8]⟩] = .ok s' ∧
      s'.rows = .ok rows ∧ (rows.background.get 1).get 2 = .ok 5 ∧
      (rows.face.get 1).get 2 = .ok 6 ∧ (rows.face.get 1).get 3 = .ok 0 ∧
      ∀ c : Candidate, c.fill s' 3 1 = .ok { c with
        shifts := #v[1, 2, 3, 4], points := .replicate 10 0 } := by
  have made : zeros? 4 = some (zeros 4) := zeros?_eq fun kind ↦ by cases kind <;> decide
  have within : ∀ w ∈ ([⟨2, 1, .confidence, #v[-1, 1]⟩, ⟨3, 1, .location, #v[1, 2, 3, 4]⟩,
      ⟨2, 1, .confidence, #v[5, 6]⟩, ⟨2, 0, .confidence, #v[7, 8]⟩] : List Writing), w.Within 4 := by
    simp [Within]
  obtain ⟨s', rows, written, -, cut, reads⟩ :=
    (reads_last_written made (by decide)).1 (by decide) _ within
  obtain ⟨background, face, -⟩ := reads 2 (by decide) 1
  obtain ⟨-, face', filled⟩ := reads 3 (by decide) 1
  exact ⟨_, s', rows, made, written, cut, background, face, face', filled⟩

/-- So many cells make all lengths wrap to zero, so the first anchor has no place for its values. -/
theorem write_wrapped_cells :
    ∃ s, zeros? 4611686018427387904 = some s ∧
      (⟨0, 0, .confidence, #v[-5, 5]⟩ : Writing).Within 4611686018427387904 ∧
      ¬ ∃ s' rows, s.writeAll [⟨0, 0, .confidence, #v[-5, 5]⟩] = .ok s' ∧ s'.rows = .ok rows := by
  have empty (kind : TensorKind) : kind.length 4611686018427387904 ≤ Tensor.maxLength := by
    cases kind <;> decide
  have made := zeros?_eq empty
  refine ⟨_, made, ⟨by decide, by decide⟩, ?_⟩
  rintro ⟨s', -, written, -⟩
  obtain ⟨e, failed⟩ := write_eq_error (by decide) (held_of_zeros? made) (by decide) 0 0 .confidence
    #v[-5, 5]
  rw [writeAll, List.foldlM_cons, failed] at written
  cases written

end ScaleTensors

end FaceDecode
