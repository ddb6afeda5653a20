import FaceDecode.Proofs.Detection.Faces
import FaceDecode.Proofs.Tensor.Building

namespace FaceDecode

section Greedy

variable {α : Type} {clash clash' : α → α → Prop} [DecidableRel clash] [DecidableRel clash']

/-- What is taken depends on no more than which elements of the list clash. -/
theorem greedy_congr {l : List α} (h : ∀ a ∈ l, ∀ b ∈ l, clash a b ↔ clash' a b) :
    greedy clash l = greedy clash' l := by
  induction l using List.reverseRecOn with
  | nil => rfl
  | append_singleton l a ih =>
    have front : greedy clash l = greedy clash' l :=
      ih fun b hb c hc ↦ h b (List.mem_append_left _ hb) c (List.mem_append_left _ hc)
    have last : a ∈ l ++ [a] := List.mem_append_right l (List.mem_singleton_self a)
    have same : (∃ b ∈ greedy clash' l, clash b a) ↔ ∃ b ∈ greedy clash' l, clash' b a := by
      refine exists_congr fun b ↦ and_congr_right fun hb ↦ h b ?_ a last
      exact List.mem_append_left _ ((greedy_sublist clash' l).subset hb)
    rw [greedy_concat, greedy_concat, front, accept, accept]
    exact if_congr same rfl rfl

end Greedy

theorem ScaleTensors.probability_congr {s s' : ScaleTensors} (cells : s.cells = s'.cells)
    (conf : s.conf.values.toArray = s'.conf.values.toArray) : s.probability = s'.probability := by
  obtain ⟨n, ⟨values⟩, _, _⟩ := s
  obtain ⟨n', ⟨values'⟩, _, _⟩ := s'
  obtain rfl : n = n' := cells
  obtain rfl : values = values' := Vector.toArray_inj.1 conf
  rfl

namespace Frame

variable {f f' : Frame}

/-- Two frames hold the same values of a kind for an anchor. -/
def Agree (f f' : Frame) (kind : TensorKind) (p : Place) : Prop :=
  ∀ k : Fin kind.width, f.value? p kind k = f'.value? p kind k

theorem Agree.valuesOf_eq {kind : TensorKind} {p : Place} (h : Agree f f' kind p) :
    f.valuesOf p kind = f'.valuesOf p kind := by
  refine Vector.ext fun k hk ↦ ?_
  have held (f : Frame) : (f.valuesOf p kind)[k] = (f.value? p kind k).getD 0 := Vector.getElem_ofFn hk
  rw [held, held, h ⟨k, hk⟩]

/-- Two frames have the same cells and the same confidences. -/
structure Alike (f f' : Frame) : Prop where
  cells : f.cells = f'.cells
  conf : ∀ scale, (f.scales.get scale).conf.values.toArray = (f'.scales.get scale).conf.values.toArray

namespace Alike

variable (alike : Alike f f')
include alike

theorem cells_get (scale : Fin scaleCount) :
    (f.scales.get scale).cells = (f'.scales.get scale).cells := by
  rw [← get_cells, ← get_cells, alike.cells]

theorem number_eq : f.number = f'.number := by
  funext p
  rw [number, number, cellsBefore, cellsBefore, alike.cells]

theorem probability_eq : f.probability = f'.probability := by
  funext p
  rw [probability, probability,
    ScaleTensors.probability_congr (alike.cells_get p.scale) (alike.conf p.scale)]

theorem passing_eq (threshold : Float32) : f.passing threshold = f'.passing threshold := by
  simp only [passing, places, alike.probability_eq, alike.cells_get]

end Alike

end Frame

namespace Detection

theorem rankedBy_congr {α : Type} {g g' : α → Detection} (h : ∀ a, (g a).score = (g' a).score)
    (l : List α) : rankedBy g l = rankedBy g' l := by
  simp only [rankedBy, precedes, h]

variable {f f' : Frame} (alike : f.Alike f') (table : AnchorTable)
include alike

theorem score_ofPlace_eq (p : Frame.Place) :
    (ofPlace f table p).score = (ofPlace f' table p).score := by
  rw [ofPlace, ofPlace, alike.probability_eq]

theorem box_ofPlace_eq {p : Frame.Place} (loc : f.Agree f' .location p) :
    (ofPlace f table p).box = (ofPlace f' table p).box := by
  rw [ofPlace, ofPlace, alike.number_eq, loc.valuesOf_eq]

theorem kept_eq (s : DetectSettings)
    (loc : ∀ p ∈ f.passing s.scoreThreshold, f.Agree f' .location p) :
    greedy (ClashAt f table s.overlapThreshold)
        (rankedBy (ofPlace f table) (f.passing s.scoreThreshold)) =
      greedy (ClashAt f' table s.overlapThreshold)
        (rankedBy (ofPlace f' table) (f'.passing s.scoreThreshold)) := by
  rw [← alike.passing_eq, ← rankedBy_congr (score_ofPlace_eq alike table)]
  have box (p) (hp : p ∈ rankedBy (ofPlace f table) (f.passing s.scoreThreshold)) :=
    box_ofPlace_eq alike table (loc p ((rankedBy_perm _ _).mem_iff.1 hp))
  refine greedy_congr fun p hp q hq ↦ ?_
  rw [ClashAt, ClashAt, Clash, Clash, box p hp, box q hq]

theorem faceOfPlace_eq (l : Letterbox) {p : Frame.Place} (loc : f.Agree f' .location p) :
    (faceOfPlace f table l p).score = (faceOfPlace f' table l p).score ∧
      (faceOfPlace f table l p).box = (faceOfPlace f' table l p).box := by
  rw [faceOfPlace, faceOfPlace, alike.probability_eq, alike.number_eq, loc.valuesOf_eq]
  exact ⟨rfl, rfl⟩

theorem faceOfPlace_eq_of_landmarks (l : Letterbox) {p : Frame.Place}
    (loc : f.Agree f' .location p) (landms : f.Agree f' .landmarks p) :
    faceOfPlace f table l p = faceOfPlace f' table l p := by
  rw [faceOfPlace, faceOfPlace, alike.probability_eq, alike.number_eq, loc.valuesOf_eq,
    landms.valuesOf_eq]

omit alike

/-- Frames with the same cells and confidences that hold the same locations for the anchors that
pass have the same faces, as far as scores and boxes go. If they hold the same landmarks for these
anchors as well, there is no difference at all. -/
theorem detect_independent {f f' : Frame} (alike : f.Alike f') (table : AnchorTable)
    (s : DetectSettings)
    (loc : ∀ p, f.Has p → s.scoreThreshold ≤ f.probability p → f.Agree f' .location p) :
    ∃ faces faces', detect f table s = .ok faces ∧ detect f' table s = .ok faces' ∧
      List.Forall₂ (fun a b ↦ a.score = b.score ∧ a.box = b.box) faces faces' ∧
      ((∀ p, f.Has p → s.scoreThreshold ≤ f.probability p → f.Agree f' .landmarks p) →
        faces = faces') := by
  by_cases same : f.cells = table.cells
  · have passes (p) (h : p ∈ f.passing s.scoreThreshold) := (f.mem_passing _ p).1 h
    have there : ∀ p ∈ greedy (ClashAt f table s.overlapThreshold)
        (rankedBy (ofPlace f table) (f.passing s.scoreThreshold)), p ∈ f.passing s.scoreThreshold :=
      fun p hp ↦ (rankedBy_perm _ _).mem_iff.1 ((greedy_sublist _ _).subset hp)
    have kept := kept_eq alike table s fun p hp ↦ loc p (passes p hp).1 (passes p hp).2
    refine ⟨_, _, detect_eq same s, detect_eq (alike.cells ▸ same) s, ?_, fun landms ↦ ?_⟩
    · rw [← kept, List.forall₂_map_left_iff, List.forall₂_map_right_iff, List.forall₂_same]
      intro p hp
      obtain ⟨has, pass⟩ := passes p (there p hp)
      exact faceOfPlace_eq alike table _ (loc p has pass)
    · rw [← kept]
      refine List.map_congr_left fun p hp ↦ ?_
      obtain ⟨has, pass⟩ := passes p (there p hp)
      exact faceOfPlace_eq_of_landmarks alike table _ (loc p has pass) (landms p has pass)
  · exact ⟨[], [], if_pos same, if_pos (alike.cells ▸ same), .nil, fun _ ↦ rfl⟩

def lone (loc : Vector Float32 8) (landms : Vector Float32 20) : Frame :=
  ⟨#v[⟨1, ⟨#v[0, 1, 0, 0]⟩, ⟨loc⟩, ⟨landms⟩⟩, .zeros 0, .zeros 0]⟩

def loneTable : AnchorTable :=
  .ofGrids 8 8 #v[⟨1, 1, 8, #v[2, 4]⟩, ⟨0, 0, 8, #v[2, 4]⟩, ⟨0, 0, 8, #v[2, 4]⟩] (by decide)

theorem cells_lone (loc : Vector Float32 8) (landms : Vector Float32 20) :
    (lone loc landms).cells = #v[1, 0, 0] := by
  simp [lone, Frame.cells, ScaleTensors.zeros]

theorem lone_alike (loc loc' : Vector Float32 8) (landms landms' : Vector Float32 20) :
    (lone loc landms).Alike (lone loc' landms') := by
  refine ⟨by rw [cells_lone, cells_lone], fun scale ↦ ?_⟩
  match scale with
  | 0 | 1 | 2 => rfl

theorem eq_of_lone_has {loc : Vector Float32 8} {landms : Vector Float32 20} {p : Frame.Place}
    (h : (lone loc landms).Has p) : p = ⟨0, 0, 0⟩ ∨ p = ⟨0, 0, 1⟩ := by
  obtain ⟨scale, cell, anchor⟩ := p
  rw [Frame.Has, ← Frame.get_cells, cells_lone] at h
  have scales : ∀ scale : Fin scaleCount, scale = 0 ∨ scale = 1 ∨ scale = 2 := by decide
  have anchors : ∀ anchor : Fin anchorsPerCell, anchor = 0 ∨ anchor = 1 := by decide
  rcases scales scale with rfl | rfl | rfl
  · obtain rfl : cell = 0 := Nat.lt_one_iff.1 h
    exact (anchors anchor).imp (congrArg (Frame.Place.mk 0 0)) (congrArg (Frame.Place.mk 0 0))
  · exact absurd h (Nat.not_lt_zero cell)
  · exact absurd h (Nat.not_lt_zero cell)

theorem value_lone (loc : Vector Float32 8) (landms : Vector Float32 20)
    (anchor : Fin anchorsPerCell) (k : Nat) :
    (lone loc landms).value? ⟨0, 0, anchor⟩ .location k = loc[anchor * 4 + k]? := by
  rw [Frame.value?, Tensor.value?]
  change loc[(anchor * 4 + k) * 1 + 0]? = _
  rw [Nat.mul_one, Nat.add_zero]

theorem probability_lone (loc : Vector Float32 8) (landms : Vector Float32 20) :
    (lone loc landms).probability ⟨0, 0, 1⟩ = faceProbability 0 0 := by
  rw [Frame.probability, ScaleTensors.probability]
  congr 1

theorem detect_independent_rejected :
    (lone (.replicate 8 0) (.replicate 20 0)).Alike
        (lone #v[0, 0, 0, 0, 1, 2, 3, 4] (.replicate 20 5)) ∧
      (∀ p, (lone (.replicate 8 0) (.replicate 20 0)).Has p →
        0.6 ≤ (lone (.replicate 8 0) (.replicate 20 0)).probability p →
        (lone (.replicate 8 0) (.replicate 20 0)).Agree
          (lone #v[0, 0, 0, 0, 1, 2, 3, 4] (.replicate 20 5)) .location p) ∧
      ∃ faces faces',
        detect (lone (.replicate 8 0) (.replicate 20 0)) loneTable {} = .ok faces ∧
        detect (lone #v[0, 0, 0, 0, 1, 2, 3, 4] (.replicate 20 5)) loneTable {} = .ok faces' ∧
        List.Forall₂ (fun a b ↦ a.score = b.score ∧ a.box = b.box) faces faces' := by
  have alike := lone_alike (.replicate 8 0) #v[0, 0, 0, 0, 1, 2, 3, 4] (.replicate 20 0)
    (.replicate 20 5)
  have loc (p) (has : (lone (.replicate 8 0) (.replicate 20 0)).Has p)
      (pass : 0.6 ≤ (lone (.replicate 8 0) (.replicate 20 0)).probability p) :
      (lone (.replicate 8 0) (.replicate 20 0)).Agree
        (lone #v[0, 0, 0, 0, 1, 2, 3, 4] (.replicate 20 5)) .location p := by
    rcases eq_of_lone_has has with rfl | rfl
    · intro k
      rw [value_lone, value_lone]
      match k with
      | 0 | 1 | 2 | 3 => rfl
    · rw [probability_lone] at pass
      exact absurd pass (by decide +kernel)
  obtain ⟨faces, faces', found, found', same, -⟩ := detect_independent alike loneTable {} loc
  exact ⟨alike, loc, faces, faces', found, found', same⟩

end Detection

end FaceDecode
