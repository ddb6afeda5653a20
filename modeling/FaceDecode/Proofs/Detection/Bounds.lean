import FaceDecode.Proofs.Detection.Faces
import FaceDecode.Proofs.Tensor.Building

namespace FaceDecode

section Places

variable {α : Type}

def lookUp (xs : Array α) (i : Nat) : Except OutOfRange α :=
  if h : i < xs.size then .ok xs[i] else .error ⟨i, xs.size⟩

def put (xs : Array α) (i : Nat) (x : α) : Except OutOfRange (Array α) :=
  if h : i < xs.size then .ok (xs.set i x h) else .error ⟨i, xs.size⟩

variable {n : Nat} (xs : Vector α n) (i : Fin n)

theorem lookUp_eq : lookUp xs.toArray i = .ok (xs.get i) :=
  dif_pos (i.2.trans_eq xs.size_toArray.symm)

theorem put_eq (x : α) : put xs.toArray i x = .ok (xs.set i x i.2).toArray :=
  dif_pos (i.2.trans_eq xs.size_toArray.symm)

end Places

namespace Detection

variable (threshold : Float32)

def rankedAt (ds : Array Detection) : Except OutOfRange (List Nat) := do
  let found ← (List.range ds.size).mapM fun i ↦ return (i, ← lookUp ds i)
  return (found.mergeSort fun p q ↦ precedes p.2 q.2).map Prod.fst

def markAt (ds : Array Detection) (best : Detection) (marks : Array Bool) (j : Nat) :
    Except OutOfRange (Array Bool) := do
  if ← lookUp marks j then return marks
  else if Clash threshold best (← lookUp ds j) then put marks j true
  else return marks

def sweepAt (ds : Array Detection) : List Nat → Array Bool → Except OutOfRange (List Detection)
  | [], _ => return []
  | i :: rest, marks => do
    if ← lookUp marks i then sweepAt ds rest marks
    else
      let best ← lookUp ds i
      let marks ← rest.foldlM (markAt threshold ds best) marks
      return best :: (← sweepAt ds rest marks)

/-- Suppression with numbers for places, which are looked up wherever they are used. -/
def suppressAt (ds : List Detection) : Except OutOfRange (List Detection) := do
  let order ← rankedAt ds.toArray
  sweepAt threshold ds.toArray order (.replicate ds.length false)

variable {n : Nat} (ds : Vector Detection n)

def placed : List (Nat × Detection) := (List.finRange n).map fun i ↦ (i.val, ds.get i)

theorem mapM_lookUp_eq :
    ((List.range ds.toArray.size).mapM fun i ↦ do return (i, ← lookUp ds.toArray i)) =
      (.ok (placed ds) : Except OutOfRange (List (Nat × Detection))) := by
  rw [ds.size_toArray, ← List.map_coe_finRange_eq_range, List.mapM_map]
  refine mapM_eq_pure fun i _ ↦ ?_
  rw [Function.comp_apply, lookUp_eq]
  rfl

theorem rankedAt_eq : rankedAt ds.toArray = .ok ((ranked ds).map Fin.val) := by
  have sorted : (ranked ds).map (fun i ↦ (i.val, ds.get i)) =
      (placed ds).mergeSort fun p q ↦ precedes p.2 q.2 :=
    List.map_mergeSort fun _ _ _ _ ↦ rfl
  rw [rankedAt, mapM_lookUp_eq]
  show Except.ok (((placed ds).mergeSort _).map Prod.fst) = _
  rw [← sorted, List.map_map]
  rfl

theorem markAt_eq (i j : Fin n) (marks : Vector Bool n) :
    markAt threshold ds.toArray (ds.get i) marks.toArray j =
      .ok (mark threshold ds i marks j).toArray := by
  rw [markAt, lookUp_eq, mark]
  by_cases marked : marks.get j = true
  · rw [if_neg fun h ↦ Bool.eq_false_iff.1 h.1 marked]
    exact if_pos marked
  · refine (if_neg marked).trans ?_
    rw [lookUp_eq]
    by_cases clash : Clash threshold (ds.get i) (ds.get j)
    · rw [if_pos ⟨Bool.eq_false_iff.2 marked, clash⟩, ← put_eq]
      exact if_pos clash
    · rw [if_neg fun h ↦ clash h.2]
      exact if_neg clash

theorem foldlM_markAt_eq (i : Fin n) (order : List (Fin n)) (marks : Vector Bool n) :
    (order.map Fin.val).foldlM (markAt threshold ds.toArray (ds.get i)) marks.toArray =
      .ok (order.foldl (mark threshold ds i) marks).toArray := by
  induction order generalizing marks with
  | nil => rfl
  | cons j rest ih =>
    rw [List.map_cons, List.foldlM_cons, markAt_eq]
    exact ih (mark threshold ds i marks j)

theorem sweepAt_eq (order : List (Fin n)) (marks : Vector Bool n) :
    sweepAt threshold ds.toArray (order.map Fin.val) marks.toArray =
      .ok ((sweep threshold ds order marks).map ds.get) := by
  induction order generalizing marks with
  | nil => rfl
  | cons i rest ih =>
    rw [List.map_cons, sweepAt, lookUp_eq, sweep]
    by_cases marked : marks.get i = true
    · rw [if_pos marked]
      exact (if_pos marked).trans (ih marks)
    · rw [if_neg marked]
      refine (if_neg marked).trans ?_
      rw [lookUp_eq]
      show (List.foldlM (markAt threshold ds.toArray (ds.get i)) marks.toArray
        (rest.map Fin.val) >>= fun marks ↦ do
          return ds.get i :: (← sweepAt threshold ds.toArray (rest.map Fin.val) marks)) = _
      rw [foldlM_markAt_eq]
      show (sweepAt threshold ds.toArray (rest.map Fin.val) _ >>= _) = _
      rw [ih]
      rfl

theorem suppressAt_eq (ds : List Detection) :
    suppressAt threshold ds = .ok (suppress threshold ds) := by
  let all : Vector Detection ds.length := ⟨ds.toArray, rfl⟩
  have unmarked : Array.replicate ds.length false = (Vector.replicate ds.length false).toArray := rfl
  have order : rankedAt ds.toArray = .ok ((ranked all).map Fin.val) := rankedAt_eq all
  rw [suppressAt, order, unmarked]
  exact sweepAt_eq threshold all (ranked all) (.replicate _ false)

/-- A frame that can be made has the values that its cells ask for, before and after each write,
unless the number of its confidences wraps. Whatever the table and the settings, detection finds all
places that it looks for, and those of suppression are there for plain numbers too. -/
theorem detect_in_range {f : Frame} (built : f.Built) :
    (∀ scale kind, ((f.scales.get scale).tensor kind).values.toArray.size =
      kind.channels * (f.scales.get scale).cells % UInt64.size) ∧
    (∀ scale, 4 * (f.scales.get scale).cells < UInt64.size →
      (f.scales.get scale).conf.values.toArray.size = 4 * (f.scales.get scale).cells ∧
      (f.scales.get scale).loc.values.toArray.size = 8 * (f.scales.get scale).cells ∧
      (f.scales.get scale).landms.values.toArray.size = 20 * (f.scales.get scale).cells) ∧
    (∀ scale cell anchor kind values f', f.write scale cell anchor kind values = .ok f' →
      f'.cells = f.cells) ∧
    ∀ (table : AnchorTable) (s : DetectSettings),
      (∃ faces, detect f table s = .ok faces) ∧
      ∀ ds, suppressAt s.overlapThreshold ds = .ok (suppress s.overlapThreshold ds) := by
  refine ⟨fun scale kind ↦ Vector.size_toArray _, fun scale whole ↦ ?_,
    fun scale cell anchor kind values f' ↦ Frame.cells_of_write, fun table s ↦ ⟨?_, fun ds ↦ ?_⟩⟩
  · -- The confidences are held, and from their number follow the others.
    have size_eq := ScaleTensors.Held.size_eq (built.held scale) whole
    exact ⟨size_eq .confidence, size_eq .location, size_eq .landmarks⟩
  · by_cases same : f.cells = table.cells
    · exact ⟨_, detect_eq same s⟩
    · exact ⟨[], if_pos same⟩
  · exact suppressAt_eq s.overlapThreshold ds

theorem detect_in_range_zeros :
    ∃ f, Frame.zeros? #v[1600, 400, 100] = some f ∧ f.Built ∧ f.cells = AnchorTable.input.cells ∧
      (f.scales.get 0).landms.values.toArray.size = 32000 ∧
      ∃ faces, detect f .input { scoreThreshold := 0.5 } = .ok faces ∧ faces ≠ [] := by
  have made : Frame.zeros? #v[1600, 400, 100] = some (Frame.zeros #v[1600, 400, 100]) := by
    refine Frame.zeros?_eq fun scale kind ↦ ?_
    cases kind <;> revert scale <;> decide
  have same : (Frame.zeros #v[1600, 400, 100]).cells = AnchorTable.input.cells := by
    simp [Frame.cells, Frame.zeros, ScaleTensors.zeros, AnchorTable.input, AnchorTable.ofGrids,
      AnchorTable.inputGrids, Grid.cells]
  have cells : ((Frame.zeros #v[1600, 400, 100]).scales.get 0).cells = 1600 := Frame.zeros_cells 0
  obtain ⟨-, sizes, -, found⟩ := detect_in_range (.zeros made)
  obtain ⟨-, -, size⟩ := sizes 0 (by rw [cells]; decide)
  obtain ⟨⟨faces, detected⟩, -⟩ := found .input { scoreThreshold := 0.5 }
  have has : (Frame.zeros #v[1600, 400, 100]).Has ⟨0, 0, 0⟩ := by
    rw [Frame.Has, cells]
    decide
  refine ⟨_, made, .zeros made, same, ?_, faces, detected, ?_⟩
  · rw [size, cells]
  · exact detect_ne_nil same detected has (half_le_probability_zeros _ _)

/-- So many cells ask for a number of values that wraps to zero, and empty tensors are taken. -/
theorem built_of_wrapped_lengths :
    ∃ (s : ScaleTensors) (f : Frame),
      ScaleTensors.ofArrays 1 4611686018427387904 #[] #[] #[] = .ok s ∧ f.Built ∧
      f.scales = .replicate scaleCount s ∧ s.cells = 4611686018427387904 ∧
      s.conf.values.toArray.size ≠ 4 * s.cells := by
  have empty (kind : TensorKind) :
      (#[] : Array Float32).size = kind.length 4611686018427387904 := by
    cases kind <;> decide
  obtain ⟨s, made⟩ : ∃ s, ScaleTensors.ofArrays 1 4611686018427387904 #[] #[] #[] = .ok s :=
    ⟨⟨_, ⟨#[], empty _⟩, ⟨#[], empty _⟩, ⟨#[], empty _⟩⟩,
      ScaleTensors.ofArrays_eq_ok.2 ⟨rfl, rfl, rfl, rfl⟩⟩
  obtain ⟨cells, conf, -, -⟩ := ScaleTensors.ofArrays_eq_ok.1 made
  have listed : Listed #[] := Nat.zero_le _
  refine ⟨s, ⟨.replicate scaleCount s⟩, made, .ofScales fun scale ↦ ?_, rfl, cells, ?_⟩
  · have each : (Vector.replicate scaleCount s).get scale = s := Vector.getElem_replicate scale.2
    rw [each]
    exact .ofArrays listed listed listed made
  · rw [conf, cells]
    decide

end Detection

end FaceDecode
