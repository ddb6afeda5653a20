import FaceDecode.Proofs.Detection.Greedy
import FaceDecode.Proofs.Detection.Ranking
import FaceDecode.Proofs.Geometry.Overlap
import Mathlib.Data.List.FinRange

namespace FaceDecode.Detection

open scoped List

variable (threshold : Float32) (ds : List Detection)

theorem clash_comm (a b : Detection) : Clash threshold a b ↔ Clash threshold b a :=
  CenterBox.le_iou_comm threshold a.box b.box

/-- The places `kept` of a list are those of its survivors, given its places in order of rank. -/
structure Survivors (order kept : List (Fin ds.length)) : Prop where
  sublist : kept <+ order
  apart : ∀ i ∈ kept, ∀ j ∈ kept, i ≠ j → ¬ Clash threshold (ds.get i) (ds.get j)
  covered : ∀ j, j ∉ kept → ∃ i ∈ kept, [i, j] <+ order ∧ Clash threshold (ds.get i) (ds.get j)

def keptPlaces : List (Fin ds.length) :=
  let all : Vector Detection ds.length := ds.toArray.toVector
  sweep threshold all (ranked all) (.replicate _ false)

theorem suppress_eq : suppress threshold ds = (keptPlaces threshold ds).map ds.get := rfl

theorem keptPlaces_eq : keptPlaces threshold ds =
    greedy (fun i j ↦ Clash threshold (ds.get i) (ds.get j))
      (rankedBy ds.get (List.finRange ds.length)) :=
  sweep_eq_greedy threshold _ _

section Image

variable {α : Type} (g : α → Detection) (l : List α)

def origin (k : Fin (l.map g).length) : α := l.get (k.cast (List.length_map g))

theorem map_origin_finRange : (List.finRange (l.map g).length).map (origin g l) = l := by
  refine List.ext_getElem (by simp) fun i _ _ ↦ ?_
  simp [origin]

theorem comp_origin : g ∘ origin g l = (l.map g).get := by
  funext k
  simp [origin]

theorem keptPlaces_map : (keptPlaces threshold (l.map g)).map (origin g l) =
    greedy (fun a b ↦ Clash threshold (g a) (g b)) (rankedBy g l) := by
  have ranks := rankedBy_map g (origin g l) (List.finRange (l.map g).length)
  rw [map_origin_finRange, comp_origin] at ranks
  rw [ranks, greedy_map, keptPlaces_eq]
  simp only [← comp_origin, Function.comp_apply]

/-- Suppression of what `g` shows is the greedy selection in order of rank. -/
theorem suppress_map : suppress threshold (l.map g) =
    (greedy (fun a b ↦ Clash threshold (g a) (g b)) (rankedBy g l)).map g := by
  rw [suppress_eq, ← comp_origin, ← List.map_map, keptPlaces_map]

end Image

theorem suppress_eq_greedy :
    suppress threshold ds = greedy (Clash threshold) (rankedBy id ds) := by
  have suppressed := suppress_map threshold id ds
  rwa [List.map_id, List.map_id] at suppressed

theorem suppress_survivors :
    ∃ order kept : List (Fin ds.length),
      order ~ List.finRange ds.length ∧
      order.Pairwise (Ahead ds.get (· < ·)) ∧
      Survivors threshold ds order kept ∧
      suppress threshold ds = kept.map ds.get ∧
      ∀ other, Survivors threshold ds order other → other = kept := by
  let order := rankedBy ds.get (List.finRange ds.length)
  let clash (i j : Fin ds.length) := Clash threshold (ds.get i) (ds.get j)
  have perm : order ~ List.finRange ds.length := rankedBy_perm ds.get _
  have nodup : order.Nodup := perm.nodup_iff.2 (List.nodup_finRange _)
  have ahead : order.Pairwise (Ahead ds.get (· < ·)) :=
    rankedBy_ahead ds.get (List.pairwise_lt_finRange _)
  -- A place is ahead of another in rank where it comes before it in the ordered list.
  have place : order.Pairwise fun i j ↦ [i, j] <+ order :=
    List.pairwise_iff_forall_sublist.2 fun h ↦ h
  have place_asymm : ∀ i j, [i, j] <+ order → ¬ [j, i] <+ order := by
    intro i j h h'
    rw [List.pairwise_iff_forall_sublist] at ahead
    exact Ahead.asymm ds.get (fun _ _ ↦ Fin.lt_asymm) i j (ahead h) (ahead h')
  have survivors : Survivors threshold ds order (greedy clash order) := by
    have symm : Std.Symm fun i j ↦ ¬ clash i j :=
      ⟨fun i j h ↦ mt (clash_comm threshold (ds.get j) (ds.get i)).1 h⟩
    refine ⟨greedy_sublist clash order, ?_, ?_⟩
    · intro i hi j hj
      exact (greedy_apart clash order).forall hi hj
    · intro j hj
      exact greedy_covers place (perm.mem_iff.2 (List.mem_finRange j)) hj
  refine ⟨order, greedy clash order, perm, ahead, survivors, ?_, ?_⟩
  · have suppressed := suppress_map threshold ds.get (List.finRange ds.length)
    rwa [List.map_get_finRange] at suppressed
  · intro other h
    have apart := (nodup.sublist h.sublist).pairwise_of_forall_ne h.apart
    exact eq_greedy place_asymm place h.sublist apart fun j _ ↦ h.covered j

end FaceDecode.Detection
