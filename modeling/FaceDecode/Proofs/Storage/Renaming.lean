import FaceDecode.Proofs.Storage.Paths
import Mathlib.Data.Set.Function

namespace FaceDecode

theorem lookup_map_fst {α β γ : Type} [BEq α] [LawfulBEq α] [BEq β] [LawfulBEq β] {ρ : α → β}
    {l : List (α × γ)} {a : α} (only : ∀ b ∈ l.map Prod.fst, ρ b = ρ a → b = a) :
    (l.map fun (b, c) ↦ (ρ b, c)).lookup (ρ a) = l.lookup a := by
  induction l with
  | nil => rfl
  | cons entry l ih =>
    obtain ⟨b, c⟩ := entry
    have later := ih fun b' h ↦ only b' (List.mem_cons_of_mem b h)
    rw [List.map_cons, List.lookup_cons, List.lookup_cons, later]
    have same : (ρ a == ρ b) = (a == b) := by
      rw [Bool.eq_iff_iff, beq_iff_eq, beq_iff_eq]
      exact ⟨fun h ↦ (only b List.mem_cons_self h.symm).symm, congrArg ρ⟩
    rw [same]

namespace Disk

/-- Where a place is when what is in the folder `p` has new names. -/
def moved (p : Place) (σ : String → String) (q : Place) : Place :=
  match q.getLast? with
  | some name => if q.dropLast = p then p ++ [σ name] else q
  | none => q

def rename (d : Disk) (p : Place) (σ : String → String) : Disk :=
  { d with nodes := d.nodes.map fun (q, node) ↦ (moved p σ q, node) }

variable {d : Disk} {p q : Place} {σ : String → String} {name : String}

@[simp] theorem moved_nil : moved p σ [] = [] := rfl

@[simp] theorem moved_concat : moved p σ (p ++ [name]) = p ++ [σ name] := by
  simp [moved]

theorem moved_of_ne (h : q.dropLast ≠ p) : moved p σ q = q := by
  unfold moved
  split
  · exact if_neg h
  · rfl

theorem place_cases (p q : Place) : q = [] ∨ (∃ name, q = p ++ [name]) ∨ q ≠ [] ∧ q.dropLast ≠ p := by
  rcases List.eq_nil_or_concat q with rfl | ⟨front, name, rfl⟩
  · exact .inl rfl
  · rw [List.concat_eq_append, List.dropLast_concat]
    by_cases same : front = p
    · exact .inr (.inl ⟨name, by rw [same]⟩)
    · exact .inr (.inr ⟨by simp, same⟩)

theorem mem_namesIn : name ∈ d.namesIn p ↔ p ++ [name] ∈ d.nodes.map Prod.fst := by
  rw [namesIn, List.mem_filterMap, List.mem_map]
  refine exists_congr fun ⟨q, node⟩ ↦ and_congr_right fun _ ↦ ?_
  rw [Option.ite_none_right_eq_some]
  constructor
  · rintro ⟨rfl, last⟩
    exact (List.dropLast_append_getLast? name last).symm
  · rintro rfl
    simp

theorem namesIn_rename : (d.rename p σ).namesIn p = (d.namesIn p).map σ := by
  rw [namesIn, namesIn, rename, List.filterMap_map, List.map_filterMap]
  refine List.filterMap_congr fun ⟨q, node⟩ _ ↦ ?_
  rcases place_cases p q with rfl | ⟨name, rfl⟩ | ⟨-, other⟩
  · simp
  · simp
  · simp [moved_of_ne other, other]

theorem mem_of_node? {node : Node} (h : d.node? q = some node) (below : q ≠ []) :
    q ∈ d.nodes.map Prod.fst := by
  rw [node?, if_neg below] at h
  have found : (d.nodes.lookup q).isSome := by rw [h]; rfl
  rw [List.lookup_isSome_iff] at found
  simpa using found

theorem moved_eq_nil_iff : moved p σ q = [] ↔ q = [] := by
  rcases place_cases p q with rfl | ⟨name, rfl⟩ | ⟨-, other⟩
  · simp
  · simp
  · rw [moved_of_ne other]

section Renamed

variable (distinct : Set.InjOn σ {name | name ∈ d.namesIn p})

include distinct

theorem moved_injOn : Set.InjOn (moved p σ) {q | q ∈ d.nodes.map Prod.fst} := by
  intro q hq q' hq' same
  have inside (name : String) (h : p ++ [name] ∈ d.nodes.map Prod.fst) (r : Place)
      (hr : r ∈ d.nodes.map Prod.fst) (same : moved p σ r = moved p σ (p ++ [name])) :
      r = p ++ [name] := by
    rw [moved_concat] at same
    rcases place_cases p r with rfl | ⟨name', rfl⟩ | ⟨-, other⟩
    · simp at same
    · rw [moved_concat, List.append_cancel_left_eq, List.singleton_inj] at same
      rw [distinct (mem_namesIn.2 hr) (mem_namesIn.2 h) same]
    · rw [moved_of_ne other] at same
      simp [same] at other
  rcases place_cases p q with rfl | ⟨name, rfl⟩ | ⟨-, other⟩
  · exact (moved_eq_nil_iff.1 same.symm).symm
  · exact (inside name hq q' hq' same.symm).symm
  · rcases place_cases p q' with rfl | ⟨name, rfl⟩ | ⟨-, other'⟩
    · exact moved_eq_nil_iff.1 same
    · exact inside name hq' q hq same
    · rwa [moved_of_ne other, moved_of_ne other'] at same

theorem node?_rename (h : q ∈ d.nodes.map Prod.fst) :
    (d.rename p σ).node? (moved p σ q) = d.node? q := by
  unfold node?
  rw [rename, lookup_map_fst fun q' hq' same ↦ moved_injOn distinct hq' h same]
  exact if_congr moved_eq_nil_iff rfl rfl

theorem exists_of_node?_rename {node : Node} (h : (d.rename p σ).node? q = some node) :
    ∃ q', moved p σ q' = q ∧ d.node? q' = some node := by
  by_cases root : q = []
  · subst root
    exact ⟨[], rfl, h⟩
  · have listed := mem_of_node? h root
    rw [rename, List.map_map, List.mem_map] at listed
    obtain ⟨⟨q', node'⟩, there, rfl⟩ := listed
    refine ⟨q', rfl, ?_⟩
    rw [← node?_rename distinct (List.mem_map_of_mem there)]
    exact h

variable (solid : ∀ name, d.isFolder (p ++ [name]) = true → σ name = name)

include solid

omit distinct in
theorem moved_of_isFolder (h : d.isFolder q = true) : moved p σ q = q := by
  rcases place_cases p q with rfl | ⟨name, rfl⟩ | ⟨-, other⟩
  · rfl
  · rw [moved_concat, solid name h]
  · exact moved_of_ne other

theorem isFolder_rename (q : Place) : (d.rename p σ).isFolder q = d.isFolder q := by
  rw [Bool.eq_iff_iff]
  constructor
  · intro h
    obtain ⟨q', rfl, node⟩ := exists_of_node?_rename distinct (isFolder_iff.1 h)
    rwa [moved_of_isFolder solid (isFolder_iff.2 node), isFolder_iff]
  · intro h
    by_cases root : q = []
    · subst root
      rfl
    · have node := isFolder_iff.1 h
      rw [isFolder_iff, ← node, ← node?_rename distinct (mem_of_node? node root),
        moved_of_isFolder solid h]

theorem place?_rename (path : String) : (d.rename p σ).place? path = d.place? path :=
  have here : (d.rename p σ).here = d.here := rfl
  place?_congr here (isFolder_rename distinct solid) path

theorem folder?_rename (path : String) : (d.rename p σ).folder? path = d.folder? path := by
  have folders : (d.rename p σ).isFolder = d.isFolder := funext (isFolder_rename distinct solid)
  rw [folder?, folder?, place?_rename distinct solid, folders]

end Renamed

end Disk

end FaceDecode
