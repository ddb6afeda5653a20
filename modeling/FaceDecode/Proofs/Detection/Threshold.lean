import FaceDecode.Proofs.Detection.Faces

namespace FaceDecode

theorem filter_append_filter_not {α : Type} (P : α → Prop) [DecidablePred P] {l : List α}
    (handed : l.Pairwise fun a b ↦ P b → P a) : l.filter P ++ l.filter (¬ P ·) = l := by
  induction l with
  | nil => rfl
  | cons a l ih =>
    rw [List.pairwise_cons] at handed
    by_cases h : P a
    · simpa [h] using ih handed.2
    · have none : ∀ b ∈ a :: l, ¬ P b := by
        intro b hb hPb
        rcases List.mem_cons.1 hb with rfl | hb
        · exact h hPb
        · exact h (handed.1 b hb hPb)
      rw [List.filter_eq_nil_iff.2 (by simpa using none), List.nil_append]
      exact List.filter_eq_self.2 (by simpa using none)

variable (f : Frame) {t₁ t₂ : Float32}

theorem Frame.passing_raised (h : t₁ ≤ t₂) :
    f.passing t₂ = (f.passing t₁).filter fun p ↦ t₂ ≤ f.probability p := by
  unfold Frame.passing
  rw [List.filter_filter]
  refine List.filter_congr fun p _ ↦ ?_
  rw [← Bool.decide_and, decide_eq_decide]
  exact ⟨fun hp ↦ ⟨hp, Number.le_trans h hp⟩, fun hp ↦ hp.1⟩

namespace Detection

variable (table : AnchorTable)

theorem le_of_ahead {before : Frame.Place → Frame.Place → Prop} {p q : Frame.Place}
    (hp : t₁ ≤ f.probability p) (hq : t₂ ≤ f.probability q)
    (h : Ahead (ofPlace f table) before p q) : t₂ ≤ f.probability p := by
  have number_p := (Number.not_isNaN_of_le hp).2
  have number_q := (Number.not_isNaN_of_le hq).2
  refine Number.le_trans hq (Score.le_of_rank_le number_q number_p ?_)
  rcases h with h | ⟨h, -⟩
  · exact Int.le_of_lt h
  · exact Int.le_of_eq h.symm

/-- The ranking of the anchors that pass the higher threshold comes first in that of the others. -/
theorem rankedBy_raised (h : t₁ ≤ t₂) :
    ∃ tail, (∀ p ∈ tail, ¬ t₂ ≤ f.probability p) ∧
      rankedBy (ofPlace f table) (f.passing t₁) =
        rankedBy (ofPlace f table) (f.passing t₂) ++ tail := by
  have ordered := f.passing_pairwise t₁
  have passes (p) (hp : p ∈ rankedBy (ofPlace f table) (f.passing t₁)) :=
    ((f.mem_passing t₁ p).1 ((rankedBy_perm _ _).mem_iff.1 hp)).2
  have handed : (rankedBy (ofPlace f table) (f.passing t₁)).Pairwise fun p q ↦
      t₂ ≤ f.probability q → t₂ ≤ f.probability p := by
    refine (rankedBy_ahead (ofPlace f table) ordered).imp_of_mem ?_
    intro p q hp _ ahead hq
    exact le_of_ahead f table (passes p hp) hq ahead
  refine ⟨(rankedBy (ofPlace f table) (f.passing t₁)).filter (¬ t₂ ≤ f.probability ·), ?_, ?_⟩
  · intro p hp
    simpa using (List.mem_filter.1 hp).2
  · rw [f.passing_raised h, rankedBy_filter _ (fun _ _ ↦ Nat.lt_asymm) ordered]
    exact (filter_append_filter_not _ handed).symm

/-- With a higher score threshold the faces are those of the lower one that reach it, and these
come first. -/
theorem detect_raised (s : DetectSettings) (h : t₁ ≤ t₂) :
    ∃ lower higher,
      detect f table { s with scoreThreshold := t₁ } = .ok lower ∧
      detect f table { s with scoreThreshold := t₂ } = .ok higher ∧
      higher <+: lower ∧ higher = lower.filter fun face ↦ t₂ ≤ face.score := by
  by_cases same : f.cells = table.cells
  · obtain ⟨tail, below, ranks⟩ := rankedBy_raised f table h
    obtain ⟨more, sub, taken⟩ := greedy_split (ClashAt f table s.overlapThreshold)
      (rankedBy (ofPlace f table) (f.passing t₂)) tail
    have reach (p)
        (hp : p ∈ greedy (ClashAt f table s.overlapThreshold)
          (rankedBy (ofPlace f table) (f.passing t₂))) : t₂ ≤ f.probability p := by
      have ranked := (greedy_sublist _ _).subset hp
      exact ((f.mem_passing t₂ p).1 ((rankedBy_perm _ _).mem_iff.1 ranked)).2
    refine ⟨_, _, detect_eq same _, detect_eq same _, ?_, ?_⟩ <;>
      simp only [ranks, taken, List.map_append]
    · exact List.prefix_append _ _
    · rw [List.filter_append, List.filter_eq_self.2, List.filter_eq_nil_iff.2, List.append_nil]
      · intro face hface
        obtain ⟨p, hp, rfl⟩ := List.mem_map.1 hface
        exact fun h ↦ below p (sub.subset hp) (of_decide_eq_true h)
      · intro face hface
        obtain ⟨p, hp, rfl⟩ := List.mem_map.1 hface
        exact decide_eq_true (reach p hp)
  · refine ⟨[], [], if_pos same, if_pos same, List.prefix_rfl, rfl⟩

theorem detect_raised_to_default : (0.5 : Float32) ≤ 0.6 ∧
    ∃ lower higher,
      detect (.zeros AnchorTable.input.cells) .input { scoreThreshold := 0.5 } = .ok lower ∧
      detect (.zeros AnchorTable.input.cells) .input {} = .ok higher ∧
      higher <+: lower ∧ higher = lower.filter fun face ↦ 0.6 ≤ face.score :=
  ⟨by decide, detect_raised _ _ {} (by decide)⟩

end Detection

end FaceDecode
