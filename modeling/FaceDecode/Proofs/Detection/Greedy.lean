import FaceDecode.Detection.Suppression
import Mathlib.Data.List.Basic
import Mathlib.Data.List.Induction

namespace FaceDecode

open scoped List

variable {α β : Type} (clash : α → α → Prop) [DecidableRel clash]

def accept (taken : List α) (a : α) : List α :=
  if ∃ b ∈ taken, clash b a then taken else taken ++ [a]

def greedy (l : List α) : List α := l.foldl (accept clash) []

theorem greedy_append (l₁ l₂ : List α) :
    greedy clash (l₁ ++ l₂) = l₂.foldl (accept clash) (greedy clash l₁) :=
  List.foldl_append

theorem greedy_concat (l : List α) (a : α) :
    greedy clash (l ++ [a]) = accept clash (greedy clash l) a :=
  greedy_append clash l [a]

theorem foldl_accept_eq_append (l taken : List α) :
    ∃ more, more <+ l ∧ l.foldl (accept clash) taken = taken ++ more := by
  induction l generalizing taken with
  | nil => exact ⟨[], .slnil, (List.append_nil taken).symm⟩
  | cons a l ih =>
    obtain ⟨more, sub, same⟩ := ih (accept clash taken a)
    rw [List.foldl_cons, same, accept]
    split
    · exact ⟨more, sub.cons a, rfl⟩
    · exact ⟨a :: more, sub.cons_cons a, List.append_assoc _ _ _⟩

theorem greedy_sublist (l : List α) : greedy clash l <+ l := by
  obtain ⟨more, sub, same⟩ := foldl_accept_eq_append clash l []
  rwa [greedy, same]

/-- What stands further back has no influence on what is taken from the front. -/
theorem greedy_split (l₁ l₂ : List α) :
    ∃ more, more <+ l₂ ∧ greedy clash (l₁ ++ l₂) = greedy clash l₁ ++ more := by
  rw [greedy_append]
  exact foldl_accept_eq_append clash l₂ (greedy clash l₁)

theorem greedy_apart (l : List α) : (greedy clash l).Pairwise fun a b ↦ ¬ clash a b := by
  induction l using List.reverseRecOn with
  | nil => exact .nil
  | append_singleton l a ih =>
    rw [greedy_concat, accept]
    split
    case isTrue h => exact ih
    case isFalse h =>
      refine List.pairwise_append.2 ⟨ih, List.pairwise_singleton _ a, ?_⟩
      intro b hb c hc hbc
      rw [List.mem_singleton.1 hc] at hbc
      exact h ⟨b, hb, hbc⟩

variable {clash} {before : α → α → Prop} {l : List α}

theorem greedy_covers (ordered : l.Pairwise before) {a : α} (ha : a ∈ l)
    (left : a ∉ greedy clash l) : ∃ b ∈ greedy clash l, before b a ∧ clash b a := by
  induction l using List.reverseRecOn with
  | nil => cases ha
  | append_singleton l c ih =>
    rw [List.pairwise_append] at ordered
    have grows : greedy clash l ⊆ greedy clash (l ++ [c]) := by
      obtain ⟨more, -, same⟩ := greedy_split clash l [c]
      rw [same]
      exact List.subset_append_left _ more
    rw [List.mem_append, List.mem_singleton] at ha
    rcases ha with ha | rfl
    · obtain ⟨b, hb, hba⟩ := ih ordered.1 ha fun h ↦ left (grows h)
      exact ⟨b, grows hb, hba⟩
    · rw [greedy_concat, accept] at left ⊢
      split at left
      case isTrue h =>
        obtain ⟨b, hb, hba⟩ := h
        have hl : b ∈ l := (greedy_sublist clash l).subset hb
        rw [if_pos ⟨b, hb, hba⟩]
        exact ⟨b, hb, ordered.2.2 b hl a (List.mem_singleton_self a), hba⟩
      case isFalse h => exact absurd (List.mem_append_right _ (List.mem_singleton_self a)) left

/-- A part of the list without clashes that clashes with all the rest is what is taken. -/
theorem eq_greedy (asymm : ∀ a b, before a b → ¬ before b a) (ordered : l.Pairwise before)
    {part : List α} (sub : part <+ l) (apart : part.Pairwise fun a b ↦ ¬ clash a b)
    (covers : ∀ a ∈ l, a ∉ part → ∃ b ∈ part, before b a ∧ clash b a) :
    part = greedy clash l := by
  -- From the back: the last element can only clash with what was taken before it.
  induction l using List.reverseRecOn generalizing part with
  | nil => exact List.sublist_nil.1 sub
  | append_singleton l c ih =>
    rw [List.pairwise_append] at ordered
    have last : ∀ a ∈ l, before a c := fun a ha ↦ ordered.2.2 a ha c (List.mem_singleton_self c)
    have fresh : c ∉ l := fun h ↦ asymm c c (last c h) (last c h)
    obtain ⟨front, back, rfl, hfront, hback⟩ := List.sublist_append_iff.1 sub
    rw [List.pairwise_append] at apart
    have same : front = greedy clash l := by
      refine ih ordered.1 hfront apart.1 ?_
      intro a ha hna
      have hac : a ≠ c := fun h ↦ fresh (h ▸ ha)
      have hnb : a ∉ back := fun h ↦ hac (List.mem_singleton.1 (hback.subset h))
      obtain ⟨b, hb, hba, hcl⟩ :=
        covers a (List.mem_append_left _ ha) (List.not_mem_append hna hnb)
      rcases List.mem_append.1 hb with hb | hb
      · exact ⟨b, hb, hba, hcl⟩
      · rw [List.mem_singleton.1 (hback.subset hb)] at hba
        exact absurd (last a ha) (asymm c a hba)
    rw [greedy_concat, accept, ← same]
    rcases List.sublist_singleton.1 hback with rfl | rfl
    · have hnc : c ∉ front ++ [] := fun h ↦ fresh (hfront.subset (by simpa using h))
      obtain ⟨b, hb, -, hcl⟩ := covers c (List.mem_append_right _ (List.mem_singleton_self c)) hnc
      rw [List.append_nil] at hb
      rw [if_pos ⟨b, hb, hcl⟩, List.append_nil]
    · have free : ¬ ∃ b ∈ front, clash b c := by
        rintro ⟨b, hb, hcl⟩
        exact apart.2.2 b hb c (List.mem_singleton_self c) hcl
      rw [if_neg free]

variable (clash)

theorem greedy_map (g : β → α) (l : List β) :
    greedy clash (l.map g) = (greedy (fun a b ↦ clash (g a) (g b)) l).map g := by
  induction l using List.reverseRecOn with
  | nil => rfl
  | append_singleton l a ih =>
    rw [List.map_append, List.map_singleton, greedy_concat, greedy_concat, ih, accept, accept]
    simp only [List.mem_map, exists_exists_and_eq_and]
    split
    · rfl
    · rw [List.map_append, List.map_singleton]

namespace Detection

variable (threshold : Float32) {n : Nat} (ds : Vector Detection n)

theorem get_mark (i : Fin n) (marks : Vector Bool n) (j k : Fin n) :
    (mark threshold ds i marks j).get k = true ↔
      marks.get k = true ∨ k = j ∧ Clash threshold (ds.get i) (ds.get j) := by
  have written : (marks.set j true).get k = if (j : Nat) = k then true else marks.get k :=
    Vector.getElem_set j.2 k.2
  unfold mark
  split
  case isTrue h =>
    rw [written]
    rcases eq_or_ne j k with rfl | differ
    · simp [h.2]
    · simp [Fin.val_ne_of_ne differ, differ.symm]
  case isFalse h =>
    constructor
    · exact .inl
    · rintro (marked | ⟨rfl, clash⟩)
      · exact marked
      · by_contra unmarked
        exact h ⟨Bool.eq_false_iff.2 unmarked, clash⟩

theorem get_foldl_mark (i : Fin n) (rest : List (Fin n)) (marks : Vector Bool n) (k : Fin n) :
    (rest.foldl (mark threshold ds i) marks).get k = true ↔
      marks.get k = true ∨ k ∈ rest ∧ Clash threshold (ds.get i) (ds.get k) := by
  induction rest generalizing marks with
  | nil => simp
  | cons j rest ih =>
    rw [List.foldl_cons, ih, get_mark, List.mem_cons]
    constructor
    · rintro ((marked | ⟨rfl, clash⟩) | ⟨hk, clash⟩)
      · exact .inl marked
      · exact .inr ⟨.inl rfl, clash⟩
      · exact .inr ⟨.inr hk, clash⟩
    · rintro (marked | ⟨rfl | hk, clash⟩)
      · exact .inl (.inl marked)
      · exact .inl (.inr ⟨rfl, clash⟩)
      · exact .inr ⟨hk, clash⟩

/-- The marks on what is left tell whether something that is taken clashes with it. -/
theorem foldl_accept_eq_sweep (order taken : List (Fin n)) (marks : Vector Bool n)
    (h : ∀ j ∈ order, marks.get j = true ↔ ∃ i ∈ taken, Clash threshold (ds.get i) (ds.get j)) :
    order.foldl (accept fun i j ↦ Clash threshold (ds.get i) (ds.get j)) taken =
      taken ++ sweep threshold ds order marks := by
  induction order generalizing taken marks with
  | nil => simp [sweep]
  | cons i rest ih =>
    have first := h i List.mem_cons_self
    rw [List.foldl_cons, accept, sweep]
    by_cases marked : marks.get i = true
    · rw [if_pos (first.1 marked), if_pos marked]
      exact ih taken marks fun j hj ↦ h j (List.mem_cons_of_mem i hj)
    · rw [if_neg (mt first.2 marked), if_neg marked, ih (taken ++ [i]), List.append_assoc,
        List.singleton_append]
      intro j hj
      rw [get_foldl_mark, h j (List.mem_cons_of_mem i hj)]
      simp [hj, or_and_right, exists_or]

theorem sweep_eq_greedy (order : List (Fin n)) :
    sweep threshold ds order (.replicate n false) =
      greedy (fun i j ↦ Clash threshold (ds.get i) (ds.get j)) order := by
  refine (foldl_accept_eq_sweep threshold ds order [] _ fun j _ ↦ ?_).symm
  simp [Vector.get]

end Detection

end FaceDecode
