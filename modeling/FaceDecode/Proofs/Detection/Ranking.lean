import FaceDecode.Detection.Suppression
import FaceDecode.Proofs.Number.Encoding
import Mathlib.Data.List.Pairwise

namespace FaceDecode

namespace Score

/-- The place of a number tells the number, where the two zeros have places of their own. -/
theorem key_eq (x : Float32) : Number.key x =
    if (ofValue x).rank < 0 then (ofValue x).rank + 1 else (ofValue x).rank := by
  have hx : x.toBits.toNat < 0x100000000 := x.toBits.toBitVec.isLt
  simp only [Number.key, Number.sign, Number.magnitude, rank, ofValue]
  by_cases h : x.toBits.toNat < 0x80000000
  · simp only [h, if_true, Float.Model.UnpackedFloat.Sign.apply]
    rw [if_neg (by omega), Nat.mod_eq_of_lt h]
  · simp only [h, if_false, Float.Model.UnpackedFloat.Sign.apply]
    rw [if_pos (by omega)]
    omega

theorem le_of_rank_le {x y : Float32} (hx : x.isNaN = false) (hy : y.isNaN = false)
    (h : (ofValue x).rank ≤ (ofValue y).rank) : x ≤ y := by
  rw [Number.isNaN_eq_false_iff] at hx hy
  refine Number.le_iff_key.2 ⟨hx, hy, ?_⟩
  rw [key_eq, key_eq]
  split <;> split <;> omega

end Score

namespace Detection

variable {α : Type} (g : α → Detection) (before : α → α → Prop)

/-- Whether the detection of `a` comes ahead of that of `b`: its score is higher, or the scores are
equal and `a` comes before `b`. -/
def Ahead (a b : α) : Prop :=
  (g b).score.rank < (g a).score.rank ∨ (g a).score.rank = (g b).score.rank ∧ before a b

def rankedBy (l : List α) : List α := l.mergeSort fun a b ↦ precedes (g a) (g b)

theorem rankedBy_map {β : Type} (h : β → α) (l : List β) :
    rankedBy g (l.map h) = (rankedBy (g ∘ h) l).map h :=
  (List.map_mergeSort (s := fun a b ↦ precedes (g a) (g b)) (f := h) fun _ _ _ _ ↦ rfl).symm

theorem rankedBy_perm (l : List α) : (rankedBy g l).Perm l := List.mergeSort_perm l _

theorem precedes_iff (a b : Detection) : precedes a b = true ↔ b.score.rank ≤ a.score.rank :=
  decide_eq_true_iff

theorem precedes_trans (a b c : Detection) (h : precedes a b = true) (h' : precedes b c = true) :
    precedes a c = true := by
  rw [precedes_iff] at h h' ⊢
  omega

theorem precedes_total (a b : Detection) : (precedes a b || precedes b a) = true := by
  rw [Bool.or_eq_true, precedes_iff, precedes_iff]
  omega

theorem rankedBy_sorted (l : List α) :
    (rankedBy g l).Pairwise fun a b ↦ precedes (g a) (g b) = true := by
  have trans (a b c : α) := precedes_trans (g a) (g b) (g c)
  have total (a b : α) := precedes_total (g a) (g b)
  exact List.pairwise_mergeSort trans total l

variable {before} in
theorem rankedBy_ahead {l : List α} (ordered : l.Pairwise before) :
    (rankedBy g l).Pairwise (Ahead g before) := by
  induction l with
  | nil => simp [rankedBy]
  | cons a l ih =>
    rw [List.pairwise_cons] at ordered
    have trans (x y z : α) := precedes_trans (g x) (g y) (g z)
    have total (x y : α) := precedes_total (g x) (g y)
    -- Sorting puts the first element before all others but those that rank above it.
    obtain ⟨l₁, l₂, whole, rest, higher⟩ := List.mergeSort_cons trans total a l
    have sorted := rankedBy_sorted g (a :: l)
    have sub (b : α) (hb : b ∈ l₂) : b ∈ l := by
      rw [← List.mem_mergeSort, rest]
      exact List.mem_append_right l₁ hb
    specialize ih ordered.2
    unfold rankedBy at ih sorted ⊢
    rw [rest, List.pairwise_append] at ih
    rw [whole, List.pairwise_append, List.pairwise_cons] at sorted ⊢
    refine ⟨ih.1, ⟨?_, ih.2.1⟩, ?_⟩
    · intro b hb
      have hab := (precedes_iff _ _).1 (sorted.2.1.1 b hb)
      have first := ordered.1 b (sub b hb)
      unfold Ahead
      by_cases same : (g a).score.rank = (g b).score.rank
      · exact .inr ⟨same, first⟩
      · exact .inl (by omega)
    · intro b hb c hc
      rcases List.mem_cons.1 hc with rfl | hc
      · have hcb := higher b hb
        rw [Bool.not_eq_true', ← Bool.not_eq_true, precedes_iff] at hcb
        exact .inl (by omega)
      · exact ih.2.2 b hb c hc

variable {before} in
theorem Ahead.asymm (h : ∀ a b, before a b → ¬ before b a) (a b : α) (hab : Ahead g before a b) :
    ¬ Ahead g before b a := by
  unfold Ahead at hab ⊢
  rcases hab with hab | ⟨same, hab⟩
  · omega
  · have hba := h a b hab
    simp only [hba, and_false, or_false]
    omega

variable {before} in
theorem rankedBy_filter (h : ∀ a b, before a b → ¬ before b a) {l : List α}
    (ordered : l.Pairwise before) (P : α → Prop) [DecidablePred P] :
    rankedBy g (l.filter P) = (rankedBy g l).filter P := by
  refine List.Perm.eq_of_pairwise ?_ (rankedBy_ahead g (ordered.filter _))
    ((rankedBy_ahead g ordered).filter _) ?_
  · intro a b _ _ hab hba
    exact absurd hba (Ahead.asymm g h a b hab)
  · exact (rankedBy_perm g _).trans ((rankedBy_perm g l).symm.filter _)

theorem rankedBy_eq_of_perm {l l' : List α} (same : l'.Perm l)
    (distinct : l.Pairwise fun a b ↦ (g a).score.rank ≠ (g b).score.rank) :
    rankedBy g l' = rankedBy g l := by
  have symm : Std.Symm fun a b ↦ (g a).score.rank ≠ (g b).score.rank := ⟨fun _ _ ↦ Ne.symm⟩
  have perm : (rankedBy g l').Perm (rankedBy g l) :=
    (rankedBy_perm g l').trans (same.trans (rankedBy_perm g l).symm)
  refine List.Perm.eq_of_pairwise ?_ (rankedBy_sorted g l') (rankedBy_sorted g l) perm
  intro a b ha hb hab hba
  rw [(rankedBy_perm g l').mem_iff, same.mem_iff] at ha
  rw [(rankedBy_perm g l).mem_iff] at hb
  rw [precedes_iff] at hab hba
  by_contra differ
  exact distinct.forall ha hb differ (Int.le_antisymm hba hab)

end Detection

end FaceDecode
