import Mathlib.Data.List.Basic
import Mathlib.Data.List.Perm.Basic

namespace FaceDecode

variable {α β ε : Type}

section Succeeding

variable {m : Type → Type} [Monad m] [LawfulMonad m] {l : List α}

theorem mapM_eq_pure {g : α → m β} {v : α → β} (h : ∀ a ∈ l, g a = pure (v a)) :
    l.mapM g = pure (l.map v) := by
  induction l with
  | nil => exact List.mapM_nil
  | cons a l ih =>
    rw [List.mapM_cons, h a List.mem_cons_self, ih fun b hb ↦ h b (List.mem_cons_of_mem a hb)]
    simp only [pure_bind, List.map_cons]

theorem vector_mapM_eq_pure {n : Nat} {xs : Vector α n} {g : α → m β} {v : α → β}
    (h : ∀ a ∈ xs.toList, g a = pure (v a)) : xs.mapM g = pure (xs.map v) := by
  have steps : xs.toArray.toList.mapM g = pure (xs.toArray.toList.map v) := mapM_eq_pure h
  refine Vector.map_toArray_inj.1 ?_
  rw [Vector.toArray_mapM, Array.mapM_eq_mapM_toList, steps, map_pure, map_pure,
    ← Array.toList_map, Array.toArray_toList, Vector.toArray_map]

theorem foldlM_eq_pure {g : β → α → m β} {v : β → α → β} (h : ∀ a ∈ l, ∀ b, g b a = pure (v b a))
    (b : β) : l.foldlM g b = pure (l.foldl v b) := by
  induction l generalizing b with
  | nil => rfl
  | cons a l ih =>
    rw [List.foldlM_cons, h a List.mem_cons_self, pure_bind, List.foldl_cons]
    exact ih (fun c hc ↦ h c (List.mem_cons_of_mem a hc)) (v b a)

end Succeeding

theorem exists_of_mem_mapM {l : List α} {g : α → Option β} {l' : List β} (h : l.mapM g = some l')
    {b : β} (hb : b ∈ l') : ∃ a ∈ l, g a = some b := by
  induction l generalizing l' with
  | nil =>
    cases h
    cases hb
  | cons a l ih =>
    rw [List.mapM_cons] at h
    obtain ⟨b', first, h⟩ := Option.bind_eq_some_iff.1 h
    obtain ⟨rest, later, h⟩ := Option.bind_eq_some_iff.1 h
    cases h
    rcases List.mem_cons.1 hb with rfl | hb
    · exact ⟨a, List.mem_cons_self, first⟩
    · obtain ⟨a', ha', found⟩ := ih later hb
      exact ⟨a', List.mem_cons_of_mem a ha', found⟩

theorem exists_of_mem_vector_mapM {n : Nat} {xs : Vector α n} {g : α → Option β} {ys : Vector β n}
    (h : xs.mapM g = some ys) {b : β} (hb : b ∈ ys.toList) : ∃ a ∈ xs.toList, g a = some b := by
  have steps : xs.toArray.toList.mapM g = some ys.toArray.toList := by
    rw [← Array.toList_mapM, ← Vector.toArray_mapM, h]
    rfl
  exact exists_of_mem_mapM steps hb

theorem toOption_eq_some_iff {r : Except ε α} {a : α} : r.toOption = some a ↔ r = .ok a := by
  cases r <;> simp [Except.toOption]

theorem toOption_mapError {ε' : Type} (f : ε → ε') (r : Except ε α) :
    (r.mapError f).toOption = r.toOption := by
  cases r <;> rfl

theorem toOption_bind (r : Except ε α) (next : α → Except ε β) :
    (r >>= next).toOption = r.toOption >>= fun a ↦ (next a).toOption := by
  cases r <;> rfl

theorem toOption_mapM (g : α → Except ε β) (l : List α) :
    (l.mapM g).toOption = l.mapM fun a ↦ (g a).toOption := by
  induction l with
  | nil => rfl
  | cons a l ih =>
    simp only [List.mapM_cons, toOption_bind, ih]
    rfl

theorem mapM_eq_some_iff {l : List α} {g : α → Option β} {l' : List β} :
    l.mapM g = some l' ↔ List.Forall₂ (g · = some ·) l l' := by
  induction l generalizing l' with
  | nil =>
    rw [List.mapM_nil, List.forall₂_nil_left_iff]
    exact Option.some_inj.trans eq_comm
  | cons a l ih =>
    rw [List.mapM_cons, List.forall₂_cons_left_iff]
    simp only [Option.bind_eq_bind, Option.bind_eq_some_iff, Option.pure_def, ih, Option.some_inj]
    constructor
    · rintro ⟨b, first, rest, later, rfl⟩
      exact ⟨b, rest, first, later, rfl⟩
    · rintro ⟨b, rest, first, later, rfl⟩
      exact ⟨b, first, rest, later, rfl⟩

theorem exists_mapM_perm {l l' : List α} {g : α → Option β} {v : List β} (same : l'.Perm l)
    (h : l.mapM g = some v) : ∃ v', l'.mapM g = some v' ∧ v'.Perm v := by
  obtain ⟨v', ran, perm⟩ := List.perm_comp_forall₂ same (mapM_eq_some_iff.1 h)
  exact ⟨v', mapM_eq_some_iff.2 ran, perm⟩

theorem bind_eq_ok {r : Except ε α} {next : α → Except ε β} {b : β} :
    (r >>= next) = .ok b ↔ ∃ a, r = .ok a ∧ next a = .ok b := by
  cases r with
  | error e => simp [bind, Except.bind]
  | ok a => simp [bind, Except.bind]

theorem bind_eq_error {r : Except ε α} {next : α → Except ε β} {e : ε} :
    (r >>= next) = .error e ↔ r = .error e ∨ ∃ a, r = .ok a ∧ next a = .error e := by
  cases r with
  | error e => simp [bind, Except.bind]
  | ok a => simp [bind, Except.bind]

theorem mapM_eq_error {g : α → Except ε β} {l : List α} {a : α} (ha : a ∈ l) {e : ε}
    (h : g a = .error e) : ∃ e', l.mapM g = .error e' := by
  induction l with
  | nil => cases ha
  | cons c l ih =>
    rw [List.mapM_cons]
    cases first : g c with
    | error e' => exact ⟨e', rfl⟩
    | ok b =>
      rcases List.mem_cons.1 ha with rfl | later
      · rw [h] at first
        cases first
      · obtain ⟨e', failed⟩ := ih later
        rw [failed]
        exact ⟨e', rfl⟩

variable {g : β → α → Except ε β}

/-- Steps fail with what the first of them that fails reports. -/
theorem foldlM_eq_error_iff {l : List α} {b : β} {e : ε} :
    l.foldlM g b = .error e ↔ ∃ front a back b',
      l = front ++ a :: back ∧ front.foldlM g b = .ok b' ∧ g b' a = .error e := by
  constructor
  · intro h
    induction l generalizing b with
    | nil => cases h
    | cons a l ih =>
      rw [List.foldlM_cons, bind_eq_error] at h
      rcases h with first | ⟨b', first, later⟩
      · exact ⟨[], a, l, b, rfl, rfl, first⟩
      · obtain ⟨front, c, back, b'', rfl, passed, failed⟩ := ih later
        refine ⟨a :: front, c, back, b'', rfl, ?_, failed⟩
        rw [List.foldlM_cons, first]
        exact passed
  · rintro ⟨front, a, back, b', rfl, passed, failed⟩
    rw [List.foldlM_append, passed]
    show ((a :: back).foldlM g b') = .error e
    rw [List.foldlM_cons, failed]
    rfl

theorem foldlM_eq_ok_iff {l : List α} {asks : α → Prop} {v : β → α → β}
    (h : ∀ a ∈ l, ∀ b b', g b a = .ok b' ↔ asks a ∧ b' = v b a) {b b' : β} :
    l.foldlM g b = .ok b' ↔ (∀ a ∈ l, asks a) ∧ b' = l.foldl v b := by
  induction l generalizing b with
  | nil =>
    rw [List.foldlM_nil, List.foldl_nil]
    constructor
    · intro done
      cases done
      exact ⟨fun a ha ↦ absurd ha List.not_mem_nil, rfl⟩
    · rintro ⟨-, rfl⟩
      rfl
  | cons a l ih =>
    obtain ⟨first, later⟩ := List.forall_mem_cons.1 h
    rw [List.foldlM_cons, bind_eq_ok, List.foldl_cons, List.forall_mem_cons]
    simp only [first, ih later]
    constructor
    · rintro ⟨_, ⟨here, rfl⟩, rest, same⟩
      exact ⟨⟨here, rest⟩, same⟩
    · rintro ⟨⟨here, rest⟩, same⟩
      exact ⟨v b a, ⟨here, rfl⟩, rest, same⟩

def Yields (r : Except ε α) (kept : α → Prop) (failed : ε → Prop) : Prop :=
  match r with
  | .ok a => kept a
  | .error e => failed e

theorem yields_iff_exists {r : Except ε α} {kept : α → Prop} :
    Yields r kept (fun _ ↦ False) ↔ ∃ a, r = .ok a ∧ kept a := by
  cases r <;> simp [Yields]

theorem Yields.bind {r : Except ε α} {next : α → Except ε β} {kept : α → Prop} {kept' : β → Prop}
    {failed : ε → Prop} (h : Yields r kept failed)
    (h' : ∀ a, kept a → Yields (next a) kept' failed) : Yields (r >>= next) kept' failed := by
  cases r with
  | error e => exact h
  | ok a => exact h' a h

/-- An invariant of the elements left and the state carries the steps through a part of the list, up
to the first that fails. -/
theorem foldlM_yields (inv : List α → β → Prop) {failed : ε → Prop}
    (step : ∀ a rest b, inv (a :: rest) b → Yields (g b a) (inv rest) failed)
    (part rest : List α) (b : β) (h : inv (part ++ rest) b) :
    Yields (part.foldlM g b) (inv rest) failed := by
  induction part generalizing b with
  | nil => exact h
  | cons a part ih =>
    rw [List.foldlM_cons]
    exact (step a (part ++ rest) b h).bind ih

theorem foldlM_invariant (inv : List α → β → Prop)
    (step : ∀ a rest b, inv (a :: rest) b → ∃ b', g b a = .ok b' ∧ inv rest b')
    (part rest : List α) (b : β) (h : inv (part ++ rest) b) :
    ∃ b', part.foldlM g b = .ok b' ∧ inv rest b' :=
  yields_iff_exists.1
    (foldlM_yields inv (fun a rest b h ↦ yields_iff_exists.2 (step a rest b h)) part rest b h)

theorem foldlM_eq_error {l : List α} {a : α} (ha : a ∈ l) (h : ∀ b, ∃ e, g b a = .error e) (b : β) :
    ∃ e, l.foldlM g b = .error e := by
  induction l generalizing b with
  | nil => cases ha
  | cons c l ih =>
    rw [List.foldlM_cons]
    cases first : g b c with
    | error e => exact ⟨e, rfl⟩
    | ok b' =>
      rcases List.mem_cons.1 ha with rfl | later
      · obtain ⟨e, failed⟩ := h b
        rw [failed] at first
        cases first
      · exact ih later b'

end FaceDecode
