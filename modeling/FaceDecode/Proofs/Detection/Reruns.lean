import FaceDecode.Proofs.Detection.Survivors

namespace FaceDecode

open scoped List

theorem eq_filter_of_sublist {α : Type} [DecidableEq α] {part l : List α} (sub : part <+ l)
    (nodup : l.Nodup) : part = l.filter (· ∈ part) := by
  induction sub with
  | slnil => rfl
  | @cons part l a sub ih =>
    obtain ⟨new, nodup⟩ := List.nodup_cons.1 nodup
    have left : a ∉ part := mt (sub.subset ·) new
    rw [List.filter_cons_of_neg (by simp [left]), ← ih nodup]
  | @cons_cons part l a sub ih =>
    obtain ⟨new, nodup⟩ := List.nodup_cons.1 nodup
    have rest : l.filter (· ∈ a :: part) = l.filter (· ∈ part) := by
      refine List.filter_congr fun b hb ↦ ?_
      have other : b ≠ a := ne_of_mem_of_not_mem hb new
      simp [other]
    rw [List.filter_cons_of_pos (by simp), rest, ← ih nodup]

section Greedy

variable {α : Type} {clash : α → α → Prop} [DecidableRel clash] {l : List α}

/-- What is not taken may be left out of the list beforehand. -/
theorem greedy_filter (P : α → Prop) [DecidablePred P] (taken : ∀ a ∈ greedy clash l, P a) :
    greedy clash (l.filter P) = greedy clash l := by
  induction l using List.reverseRecOn with
  | nil => rfl
  | append_singleton l a ih =>
    rw [greedy_concat, accept] at taken ⊢
    rw [List.filter_append]
    split at taken
    case isTrue clashes =>
      rw [if_pos clashes]
      by_cases ha : P a
      · rw [List.filter_singleton, decide_eq_true ha, cond_true, greedy_concat, ih taken, accept,
          if_pos clashes]
      · rw [List.filter_singleton, decide_eq_false ha, cond_false, List.append_nil, ih taken]
    case isFalse free =>
      have ha : P a := taken a (List.mem_append_right _ (List.mem_singleton_self a))
      have front := ih fun b hb ↦ taken b (List.mem_append_left _ hb)
      rw [if_neg free, List.filter_singleton, decide_eq_true ha, cond_true, greedy_concat, front,
        accept, if_neg free]

theorem greedy_eq_self (apart : l.Pairwise fun a b ↦ ¬ clash a b) : greedy clash l = l := by
  induction l using List.reverseRecOn with
  | nil => rfl
  | append_singleton l a ih =>
    rw [List.pairwise_append] at apart
    have free : ¬ ∃ b ∈ l, clash b a := by
      rintro ⟨b, hb, hba⟩
      exact apart.2.2 b hb a (List.mem_singleton_self a) hba
    rw [greedy_concat, ih apart.1, accept, if_neg free]

end Greedy

namespace Detection

variable (threshold : Float32) (ds : List Detection)

theorem rankedBy_eq_self {α : Type} {g : α → Detection} {l : List α}
    (ranked : l.Pairwise fun a b ↦ precedes (g a) (g b) = true) : rankedBy g l = l :=
  List.mergeSort_of_pairwise ranked

variable {threshold ds} in
/-- Suppression of a part of a list that has all that is kept of the whole keeps just that, in the
same order. -/
theorem suppress_part {places : List (Fin ds.length)} (part : places <+ List.finRange ds.length)
    (whole : ∀ i ∈ keptPlaces threshold ds, i ∈ places) :
    (keptPlaces threshold (places.map ds.get)).map (origin ds.get places) =
        keptPlaces threshold ds ∧
      suppress threshold (places.map ds.get) = suppress threshold ds := by
  have chosen : places = (List.finRange ds.length).filter (· ∈ places) :=
    eq_filter_of_sublist part (List.nodup_finRange _)
  have same : (keptPlaces threshold (places.map ds.get)).map (origin ds.get places) =
      keptPlaces threshold ds := by
    rw [keptPlaces_eq] at whole
    rw [keptPlaces_map, keptPlaces_eq, ← greedy_filter (· ∈ places) whole]
    rw [← rankedBy_filter ds.get (fun _ _ ↦ Fin.lt_asymm) (List.pairwise_lt_finRange _), ← chosen]
  refine ⟨same, ?_⟩
  rw [suppress_eq, suppress_eq, ← same, List.map_map, comp_origin]

def neighbours : List Detection := [(0.9, 0.3), (0.8, 0.4), (0.7, 0.46)].map fun (probability, cx) ↦
  { score := .ofValue probability
    box := { cx, cy := 0.5, w := 0.2, h := 0.2 }
    landmarks := .replicate 5 ⟨cx, 0.5⟩ }

def outer : List (Fin neighbours.length) := [⟨0, by decide⟩, ⟨2, by decide⟩]

theorem keptPlaces_neighbours : keptPlaces 0.3 neighbours = outer := by
  rw [keptPlaces_eq, rankedBy_eq_self (by decide +kernel)]
  decide +kernel

theorem suppress_part_outer : outer <+ List.finRange neighbours.length ∧
    (∀ i ∈ keptPlaces 0.3 neighbours, i ∈ outer) ∧
      suppress 0.3 (outer.map neighbours.get) = suppress 0.3 neighbours := by
  have part : outer <+ List.finRange neighbours.length := by decide
  have whole : ∀ i ∈ keptPlaces 0.3 neighbours, i ∈ outer := by
    rw [keptPlaces_neighbours]
    exact fun i hi ↦ hi
  exact ⟨part, whole, (suppress_part part whole).2⟩

theorem suppress_pairwise : (suppress threshold ds).Pairwise fun a b ↦
    precedes a b = true ∧ ¬ Clash threshold a b := by
  rw [suppress_eq_greedy]
  exact ((rankedBy_sorted id ds).sublist (greedy_sublist _ _)).and (greedy_apart _ _)

section Apart

variable {threshold} {ds : List Detection}
  (h : ds.Pairwise fun a b ↦ precedes a b = true ∧ ¬ Clash threshold a b)
include h

theorem keptPlaces_of_pairwise : keptPlaces threshold ds = List.finRange ds.length := by
  rw [← List.map_get_finRange ds, List.pairwise_map] at h
  rw [keptPlaces_eq, rankedBy_eq_self (h.imp And.left), greedy_eq_self (h.imp And.right)]

theorem suppress_of_pairwise : suppress threshold ds = ds := by
  rw [suppress_eq, keptPlaces_of_pairwise h, List.map_get_finRange]

end Apart

/-- Suppression of what suppression has left keeps every place of it, in the order there is. -/
theorem suppress_idempotent :
    keptPlaces threshold (suppress threshold ds) = List.finRange (suppress threshold ds).length ∧
      suppress threshold (suppress threshold ds) = suppress threshold ds :=
  ⟨keptPlaces_of_pairwise (suppress_pairwise threshold ds),
    suppress_of_pairwise (suppress_pairwise threshold ds)⟩

variable {threshold ds} in
/-- Detections whose scores are all different leave the same result in every order. -/
theorem suppress_reordered {other : List Detection}
    (distinct : ds.Pairwise fun a b ↦ a.score.rank ≠ b.score.rank) (reordered : other ~ ds) :
    suppress threshold other = suppress threshold ds := by
  have same : rankedBy id other = rankedBy id ds := rankedBy_eq_of_perm id reordered distinct
  rw [suppress_eq_greedy, suppress_eq_greedy, same]

theorem suppress_reordered_neighbours :
    (neighbours.Pairwise fun a b ↦ a.score.rank ≠ b.score.rank) ∧
      neighbours.reverse ~ neighbours ∧
      suppress 0.3 neighbours.reverse = outer.map neighbours.get := by
  have distinct : neighbours.Pairwise fun a b ↦ a.score.rank ≠ b.score.rank := by decide +kernel
  have reordered : neighbours.reverse ~ neighbours := List.reverse_perm neighbours
  refine ⟨distinct, reordered, ?_⟩
  rw [suppress_reordered distinct reordered, suppress_eq, keptPlaces_neighbours]

end Detection

end FaceDecode
