import FaceDecode.Proofs.Steps
import FaceDecode.Tensor.Recognize
import Mathlib.Data.List.Induction
import Mathlib.Data.List.Nodup

namespace FaceDecode

variable {cells : Vector Nat scaleCount}

namespace Slot

theorem all_nodup : all.Nodup := by decide

theorem mem_all (slot : Slot) : slot ∈ all := by
  obtain ⟨scale, kind⟩ := slot
  simp only [all, List.mem_flatMap, List.mem_finRange, List.mem_map, true_and]
  exact ⟨scale, kind, by cases kind <;> simp [TensorKind.all], rfl⟩

theorem length_of_ofLength? {n : Nat} {slot : Slot} (h : ofLength? cells n = some slot) :
    slot.length cells = n := by
  simpa using List.find?_some h

theorem ofLength?_length_iff :
    (∀ slot : Slot, ofLength? cells (slot.length cells) = some slot) ↔
      (all.map (length cells)).Nodup := by
  rw [List.nodup_map_iff_inj_on all_nodup]
  constructor
  · intro reached a _ b _ same
    have ha := reached a
    rw [same, reached b] at ha
    exact (Option.some.inj ha).symm
  · intro distinct slot
    have there : (ofLength? cells (slot.length cells)).isSome :=
      List.find?_isSome.2 ⟨slot, mem_all slot, by simp⟩
    obtain ⟨first, hfirst⟩ := Option.isSome_iff_exists.1 there
    have same := length_of_ofLength? hfirst
    rw [hfirst, distinct first (mem_all first) slot (mem_all slot) same]

end Slot

namespace Frame

theorem lookup_isSome_iff {filling : Filling} {slot : Slot} :
    (filling.lookup slot).isSome ↔ slot ∈ filling.map Prod.fst := by
  simp [List.lookup_isSome_iff]

theorem lookup_eq_some {filling : Filling} (nodup : (filling.map Prod.fst).Nodup) {slot : Slot}
    {values : Array Float32} : filling.lookup slot = some values ↔ (slot, values) ∈ filling := by
  induction filling with
  | nil => simp
  | cons p filling ih =>
    obtain ⟨slot', values'⟩ := p
    rw [List.map_cons, List.nodup_cons] at nodup
    rw [List.lookup_cons]
    by_cases same : slot = slot'
    · subst same
      have fresh : (slot, values) ∉ filling := by
        intro there
        have taken : slot ∈ filling.map Prod.fst := List.mem_map_of_mem there
        exact nodup.1 taken
      simp [fresh, eq_comm]
    · simp [beq_eq_false_iff_ne.2 same, same, ih nodup.2]

/-- Holds no more than one tensor for a slot, and each where its length leads. -/
structure Filling.Sound (cells : Vector Nat scaleCount) (filling : Filling) : Prop where
  nodup : (filling.map Prod.fst).Nodup
  placed : ∀ p ∈ filling, Slot.ofLength? cells p.2.size = some p.1

theorem Filling.sound_cons {filling : Filling} {slot : Slot} {values : Array Float32} :
    Sound cells ((slot, values) :: filling) ↔
      Slot.ofLength? cells values.size = some slot ∧ slot ∉ filling.map Prod.fst ∧
        Sound cells filling := by
  constructor
  · rintro ⟨nodup, placed⟩
    rw [List.map_cons, List.nodup_cons] at nodup
    rw [List.forall_mem_cons] at placed
    exact ⟨placed.1, nodup.1, nodup.2, placed.2⟩
  · rintro ⟨here, fresh, nodup, placed⟩
    exact ⟨List.nodup_cons.2 ⟨fresh, nodup⟩, List.forall_mem_cons.2 ⟨here, placed⟩⟩

theorem place_eq_ok {filling filled : Filling} {values : Array Float32} :
    place cells filling values = .ok filled ↔
      ∃ slot, Slot.ofLength? cells values.size = some slot ∧ slot ∉ filling.map Prod.fst ∧
        filled = (slot, values) :: filling := by
  unfold place
  cases found : Slot.ofLength? cells values.size with
  | none => simp
  | some slot =>
    simp only [Option.some.injEq]
    by_cases taken : slot ∈ filling.map Prod.fst
    · rw [if_pos (lookup_isSome_iff.2 taken)]
      refine iff_of_false (by simp) ?_
      rintro ⟨_, rfl, free, -⟩
      exact free taken
    · rw [if_neg (mt lookup_isSome_iff.1 taken), Except.ok.injEq]
      constructor
      · rintro rfl
        exact ⟨slot, rfl, taken, rfl⟩
      · rintro ⟨_, rfl, -, rfl⟩
        rfl

/-- Tensors go into slots one by one just where each finds its slot free. -/
theorem placeAll_eq_ok {tensors : List (Array Float32)} {filling : Filling} :
    tensors.foldlM (place cells) [] = .ok filling ↔
      filling.Sound cells ∧ filling.map Prod.snd = tensors.reverse := by
  -- From the back, since the tensor placed last stands first in the filling.
  induction tensors using List.reverseRecOn generalizing filling with
  | nil =>
    simp only [List.foldlM_nil, List.reverse_nil, List.map_eq_nil_iff]
    constructor
    · intro h
      cases h
      exact ⟨⟨.nil, by simp⟩, rfl⟩
    · rintro ⟨-, rfl⟩
      rfl
  | append_singleton tensors values ih =>
    rw [List.foldlM_append, bind_eq_ok]
    simp only [List.foldlM_cons, List.foldlM_nil, bind_pure, ih, place_eq_ok, List.reverse_append,
      List.reverse_singleton, List.singleton_append]
    constructor
    · rintro ⟨before, ⟨sound, rest⟩, slot, leads, free, rfl⟩
      exact ⟨Filling.sound_cons.2 ⟨leads, free, sound⟩, congrArg (values :: ·) rest⟩
    · rintro ⟨sound, order⟩
      obtain ⟨⟨slot, _⟩, before, rfl, rfl, rest⟩ := List.map_eq_cons_iff.1 order
      obtain ⟨leads, free, sound⟩ := Filling.sound_cons.1 sound
      exact ⟨before, ⟨sound, rest⟩, slot, leads, free, rfl⟩

end Frame

end FaceDecode
