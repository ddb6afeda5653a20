import FaceDecode.Proofs.Storage.Paths

namespace FaceDecode.Disk

variable {d d' : Disk} {p q : Place} {node : Node} {path : String} {content : ByteArray}

theorem lookup_filter_ne {nodes : List (Place × Node)} (other : q ≠ p) :
    (nodes.filter fun (r, _) ↦ r ≠ p).lookup q = nodes.lookup q := by
  induction nodes with
  | nil => rfl
  | cons entry nodes ih =>
    obtain ⟨r, node⟩ := entry
    by_cases taken : r = p
    · subst taken
      rw [List.filter_cons_of_neg (by simp), ih, List.lookup_cons, beq_eq_false_iff_ne.2 other]
    · rw [List.filter_cons_of_pos (by simpa using taken), List.lookup_cons, List.lookup_cons, ih]

theorem node?_put_self (below : p ≠ []) : (d.put p node).node? p = some node := by
  rw [node?, if_neg below, put, List.lookup_cons_self]

theorem node?_put_of_ne (other : q ≠ p) : (d.put p node).node? q = d.node? q := by
  rw [node?, node?, put, List.lookup_cons, beq_eq_false_iff_ne.2 other]
  simp only [lookup_filter_ne other]

theorem isFolder_put_file (free : d.isFolder p = false) (q : Place) :
    (d.put p (.file content)).isFolder q = d.isFolder q := by
  by_cases same : q = p
  · subst same
    have below : q ≠ [] := by
      rintro rfl
      cases free
    rw [free, isFolder, node?_put_self below]
  · rw [isFolder, isFolder, node?_put_of_ne same]

/-- What was written to a file is read from it. -/
theorem read?_of_write (h : d.write path content = some d') : d'.read? path = some content := by
  obtain ⟨p, led, h⟩ := Option.bind_eq_some_iff.1 h
  rw [Option.ite_none_left_eq_some] at h
  obtain ⟨free, written⟩ := h
  cases written
  have free : d.isFolder p = false := Bool.eq_false_iff.2 free
  have below : p ≠ [] := by
    rintro rfl
    cases free
  have here : (d.put p (.file content)).here = d.here := rfl
  refine read?_eq_some_iff.2 ⟨p, ?_, node?_put_self below⟩
  rw [← led]
  exact place?_congr here (isFolder_put_file free) path

end FaceDecode.Disk
