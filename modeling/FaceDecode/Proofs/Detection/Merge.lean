import FaceDecode.Detection.Candidate
import FaceDecode.Proofs.Tensor.Values

namespace FaceDecode

theorem ScaleTensors.fill_eq {s : ScaleTensors} {cell anchor : Nat}
    (fits : ∀ kind : TensorKind, kind.channels * s.cells < UInt64.size)
    (hc : cell < s.cells) (ha : anchor < anchorsPerCell) (c : Candidate) :
    c.fill s cell anchor = .ok { c with
      shifts := (s.tensor .location).valuesOf cell anchor
      points := (s.tensor .landmarks).valuesOf cell anchor } := by
  rw [Candidate.fill, Tensor.read_eq s.loc (fits .location) hc ha,
    Tensor.read_eq s.landms (fits .landmarks) hc ha]
  rfl

namespace Candidate

variable {f : Frame} {next : Nat} {c : Candidate} {cs : List Candidate}

variable (f) in
/-- The candidates at the head whose numbers rise from `next` on and belong to anchors. -/
def met (next : Nat) : List Candidate → List (Candidate × Frame.Place)
  | [] => []
  | c :: cs =>
    match f.places[c.index]? with
    | none => []
    | some p => if next ≤ c.index then (c, p) :: met (c.index + 1) cs else []

theorem met_here {p : Frame.Place} (h : c.index = next) (there : f.places[next]? = some p) :
    met f next (c :: cs) = (c, p) :: met f (next + 1) cs := by
  subst h
  simp only [met, there, Nat.le_refl, if_true]

theorem met_later (h : c.index ≠ next) : met f next (c :: cs) = met f (next + 1) (c :: cs) := by
  have same : next ≤ c.index ↔ next + 1 ≤ c.index := by omega
  simp only [met, same]

theorem met_of_passed (passed : f.places.drop next = []) : met f next cs = [] := by
  cases cs with
  | nil => rfl
  | cons c cs =>
    rw [met]
    split
    case h_1 => rfl
    case h_2 p there =>
      have inside : c.index < f.places.length := (List.getElem?_eq_some_iff.1 there).1
      exact if_neg (Nat.not_le_of_lt (Nat.lt_of_lt_of_le inside (List.drop_eq_nil_iff.1 passed)))

def fillFrom (c : Candidate) (f : Frame) (p : Frame.Place) : Except OutOfRange Candidate :=
  c.fill (f.scales.get p.scale) p.cell p.anchor

def fillAt (c : Candidate) (f : Frame) (p : Frame.Place) : Candidate :=
  { c with shifts := f.valuesOf p .location, points := f.valuesOf p .landmarks }

theorem fillFrom_eq {p : Frame.Place}
    (fits : ∀ kind : TensorKind, kind.channels * (f.scales.get p.scale).cells < UInt64.size)
    (h : f.Has p) : c.fillFrom f p = .ok (c.fillAt f p) :=
  ScaleTensors.fill_eq fits h p.anchor.2 c

variable (f) in
def fillMet (next : Nat) (cs : List Candidate) : Except OutOfRange (List Candidate) := do
  return (← (met f next cs).mapM fun (c, p) ↦ c.fillFrom f p) ++ cs.drop (met f next cs).length

theorem fillMet_eq_pure (none : met f next cs = []) : fillMet f next cs = .ok cs := by
  rw [fillMet, none]
  rfl

theorem fillMet_here {p : Frame.Place} (h : c.index = next) (there : f.places[next]? = some p) :
    fillMet f next (c :: cs) =
      do return (← c.fillFrom f p) :: (← fillMet f (next + 1) cs) := by
  simp [fillMet, met_here h there]

theorem fillMet_later (h : c.index ≠ next) :
    fillMet f next (c :: cs) = fillMet f (next + 1) (c :: cs) := by
  rw [fillMet, fillMet, met_later h]

end Candidate

namespace Merge

/-- What a scan has to do yet: the anchors that are left, unless no candidate waits any more, and
what comes of the candidates in the end. -/
structure Pending (f : Frame) (outcome : Except OutOfRange (List Candidate))
    (left : List Frame.Place) (m : Merge) : Prop where
  left : m.waiting = [] ∨ f.places.drop m.next = left
  outcome : (do return m.filled.toList ++ (← Candidate.fillMet f m.next m.waiting)) = outcome

variable {f : Frame} {outcome : Except OutOfRange (List Candidate)} {left : List Frame.Place}
  {m : Merge}

theorem Pending.done (h : Pending f outcome [] m) : .ok (m.filled.toList ++ m.waiting) = outcome := by
  have none : Candidate.met f m.next m.waiting = [] := by
    rcases h.left with none | passed
    · rw [none, Candidate.met]
    · exact Candidate.met_of_passed passed
  rw [← h.outcome, Candidate.fillMet_eq_pure none]
  rfl

theorem pass_spec {p : Frame.Place} (h : Pending f outcome (p :: left) m) :
    Yields (m.pass (f.scales.get p.scale) p.cell p.anchor) (Pending f outcome left)
      (outcome = .error ·) := by
  obtain ⟨next, filled, waiting⟩ := m
  obtain ⟨ahead, rfl⟩ := h
  cases waiting with
  | nil => exact ⟨.inl rfl, rfl⟩
  | cons c cs =>
    have here : f.places.drop next = p :: left := ahead.resolve_left (List.cons_ne_nil c cs)
    obtain ⟨has, number, passed⟩ := f.number_of_drop here
    by_cases h : c.index = next
    · have there := (f.places_getElem?_eq_some next p).2 ⟨has, number⟩
      rw [Candidate.fillMet_here h there]
      simp only [pass, h, if_true]
      change Yields (c.fillFrom f p >>= _) _ _
      cases c.fillFrom f p with
      | error e => exact rfl
      | ok c' =>
        refine ⟨.inr passed, ?_⟩
        simp only [Array.toList_push, List.append_assoc, List.singleton_append, bind_assoc, pure_bind]
        rfl
    · simp only [pass, h, if_false]
      exact ⟨.inr passed, by rw [Candidate.fillMet_later h]⟩

theorem cell_spec {scale : Fin scaleCount} {cell : Nat}
    (h : Pending f outcome (Frame.placesIn scale cell ++ left) m) :
    Yields ((List.finRange anchorsPerCell).foldlM (·.pass (f.scales.get scale) cell ·) m)
      (Pending f outcome left) (outcome = .error ·) := by
  have step (anchor : Fin anchorsPerCell) (rest : List (Fin anchorsPerCell)) (m : Merge)
      (h : Pending f outcome ((anchor :: rest).map (⟨scale, cell, ·⟩) ++ left) m) :
      Yields (m.pass (f.scales.get scale) cell anchor)
        (Pending f outcome (rest.map (⟨scale, cell, ·⟩) ++ left)) (outcome = .error ·) :=
    pass_spec (p := ⟨scale, cell, anchor⟩) h
  exact foldlM_yields
    (fun anchors m ↦ Pending f outcome (anchors.map (⟨scale, cell, ·⟩) ++ left) m) step
    (List.finRange anchorsPerCell) [] m (by rwa [List.append_nil])

theorem cells_spec (scale : Fin scaleCount) {count : Nat}
    (inside : count ≤ (f.scales.get scale).cells)
    (h : Pending f outcome
      ((List.range' ((f.scales.get scale).cells - count) count).flatMap (Frame.placesIn scale) ++
        left) m) :
    Yields (cells (f.scales.get scale) count m) (Pending f outcome left) (outcome = .error ·) := by
  -- The induction is on the cells that are left, up to the early end where none waits any more.
  induction count generalizing m with
  | zero => exact h
  | succ count ih =>
    rw [cells]
    split
    case isTrue none => exact ⟨.inl none, h.outcome⟩
    case isFalse =>
      have next : (f.scales.get scale).cells - (count + 1) + 1 =
          (f.scales.get scale).cells - count := by omega
      rw [List.range'_succ, next, List.flatMap_cons, List.append_assoc] at h
      exact (cell_spec h).bind fun m' h' ↦ ih (Nat.le_of_succ_le inside) h'

theorem scale_spec (scale : Fin scaleCount)
    (h : Pending f outcome (Frame.placesOf scale (f.scales.get scale).cells ++ left) m) :
    Yields (m.scale (f.scales.get scale)) (Pending f outcome left) (outcome = .error ·) := by
  refine cells_spec scale (Nat.le_refl _) ?_
  rwa [Nat.sub_self, ← List.range_eq_range']

end Merge

namespace Candidate

theorem gather_eq (f : Frame) (cs : List Candidate) : gather f cs = fillMet f 0 cs := by
  have start : Merge.Pending f (fillMet f 0 cs) f.places ⟨0, #[], cs⟩ :=
    ⟨.inr rfl, bind_pure _⟩
  have passed := foldlM_yields
    (fun scales m ↦ Merge.Pending f (fillMet f 0 cs)
      (scales.flatMap fun scale ↦ Frame.placesOf scale (f.scales.get scale).cells) m)
    (fun scale _ _ h ↦ Merge.scale_spec scale h) (List.finRange scaleCount) [] _
    (by rwa [List.append_nil])
  rw [gather, vector_toList_eq f.scales, List.foldlM_map]
  cases ended : (List.finRange scaleCount).foldlM
      (fun m scale ↦ Merge.scale m (f.scales.get scale)) ⟨0, #[], cs⟩ with
  | error e =>
    rw [ended] at passed
    exact passed.symm
  | ok m =>
    rw [ended] at passed
    exact passed.done

end Candidate

end FaceDecode
