import FaceDecode.Proofs.Storage.Writing

namespace FaceDecode

/-- A name that leads down from a folder. -/
structure Path.IsPlain (name : String) : Prop where
  slash : '/' ∉ name.toList
  ne_void : isVoid name = false
  ne_up : name ≠ ".."

namespace Disk

variable {d d' d'' : Disk} {p q : Place} {path : String} {content : ByteArray}
  {but but' : Place → Prop}

theorem follow_cons (p : Place) (name : String) (names : List String) :
    d.follow p (name :: names) = (d.follow p [name]).bind (d.follow · names) :=
  follow_append p [name] names

theorem follow_singleton_eq_some_iff {name : String} :
    d.follow p [name] = some q ↔ d.isFolder p = true ∧
      (Path.isVoid name = true ∧ q = p ∨ name = ".." ∧ q = p.dropLast ∨
        Path.isVoid name = false ∧ name ≠ ".." ∧ name.utf8ByteSize ≤ Path.maxNameBytes ∧
          q = p ++ [name]) := by
  have up : Path.isVoid ".." = false := by decide
  have void : (name = "" ∨ name = ".") ↔ Path.isVoid name = true := by simp [Path.isVoid]
  rw [follow, follow, follow, follow]
  simp only [void]
  grind

/-- What is on a disk is there later on too, but for files at some places. -/
structure Keeps (but : Place → Prop) (before later : Disk) : Prop where
  here_eq : later.here = before.here
  folder : ∀ p, before.isFolder p = true → later.isFolder p = true
  file : ∀ p content, ¬ but p → before.node? p = some (.file content) →
    later.node? p = some (.file content)

namespace Keeps

theorem refl (d : Disk) : Keeps but d d := ⟨rfl, fun _ h ↦ h, fun _ _ _ h ↦ h⟩

theorem trans (h : Keeps but d d') (h' : Keeps but d' d'') : Keeps but d d'' where
  here_eq := h'.here_eq.trans h.here_eq
  folder p inside := h'.folder p (h.folder p inside)
  file p content safe held := h'.file p content safe (h.file p content safe held)

theorem mono (h : Keeps but d d') (more : ∀ p, but p → but' p) : Keeps but' d d' where
  here_eq := h.here_eq
  folder := h.folder
  file p content safe := h.file p content fun lost ↦ safe (more p lost)

theorem put_folder (free : d.node? p = none) : Keeps but d (d.put p .folder) where
  here_eq := rfl
  folder q inside := by
    have other : q ≠ p := by
      rintro rfl
      rw [isFolder_iff, free] at inside
      cases inside
    rw [isFolder_iff, node?_put_of_ne other]
    exact isFolder_iff.1 inside
  file q content _ held := by
    have other : q ≠ p := by
      rintro rfl
      rw [free] at held
      cases held
    rw [node?_put_of_ne other, held]

theorem addFolders {names : List String} (h : d.addFolders p names = some d') : Keeps but d d' := by
  fun_induction Disk.addFolders d p names with
  | case1 =>
    cases h
    exact refl _
  | case2 _ _ _ ih => exact ih h
  | case3 => cases h
  | case4 _ _ _ _ _ _ _ _ ih => exact ih h
  | case5 => cases h
  | case6 _ _ _ _ _ _ _ free ih => exact (put_folder free).trans (ih h)

theorem makeFolders (h : d.makeFolders path = some d') : Keeps but d d' :=
  addFolders (Option.ite_none_right_eq_some.1 h).2

theorem write (h : d.write path content = some d') (there : ∀ p, d.place? path = some p → but p) :
    Keeps but d d' := by
  obtain ⟨p, led, h⟩ := Option.bind_eq_some_iff.1 h
  rw [Option.ite_none_left_eq_some] at h
  obtain ⟨free, written⟩ := h
  cases written
  refine ⟨rfl, fun q inside ↦ ?_, fun q content' safe held ↦ ?_⟩
  · rw [isFolder_put_file (Bool.eq_false_iff.2 free)]
    exact inside
  · have other : q ≠ p := by
      rintro rfl
      exact safe (there q led)
    rw [node?_put_of_ne other, held]

theorem follow {names : List String} (h : Keeps but d d') (led : d.follow p names = some q) :
    d'.follow p names = some q := by
  induction names generalizing p with
  | nil => exact led
  | cons name names ih =>
    rw [follow_cons, Option.bind_eq_some_iff] at *
    obtain ⟨p', first, rest⟩ := led
    obtain ⟨inside, way⟩ := follow_singleton_eq_some_iff.1 first
    exact ⟨p', follow_singleton_eq_some_iff.2 ⟨h.folder p inside, way⟩, ih rest⟩

theorem place? (h : Keeps but d d') (led : d.place? path = some p) : d'.place? path = some p := by
  have start : d'.start path = d.start path := by rw [start, start, h.here_eq]
  rw [place?_eq_some_iff] at *
  rw [start]
  exact ⟨led.1, h.follow led.2⟩

theorem read? (h : Keeps but d d') (held : d.read? path = some content)
    (safe : ∀ p, d.place? path = some p → ¬ but p) : d'.read? path = some content := by
  obtain ⟨p, led, held⟩ := read?_eq_some_iff.1 held
  exact read?_eq_some_iff.2 ⟨p, h.place? led, h.file p content (safe p led) held⟩

end Keeps

theorem follow_filter {names : List String} (led : d.follow p names = some q) :
    d.follow p (names.filter (!Path.isVoid ·)) = some q := by
  induction names generalizing p with
  | nil => exact led
  | cons name names ih =>
    rw [follow_cons, Option.bind_eq_some_iff] at led
    obtain ⟨p', first, rest⟩ := led
    cases void : Path.isVoid name with
    | true =>
      obtain ⟨-, ⟨-, rfl⟩ | ⟨rfl, -⟩ | ⟨other, -⟩⟩ := follow_singleton_eq_some_iff.1 first
      · rw [List.filter_cons_of_neg (by simp [void])]
        exact ih rest
      · cases void
      · rw [void] at other
        cases other
    | false =>
      rw [List.filter_cons_of_pos (by simp [void]), follow_cons, first]
      exact ih rest

theorem follow_plain {names : List String} (plain : ∀ name ∈ names, Path.IsPlain name)
    (led : d.follow p names = some q) : q = p ++ names := by
  induction names generalizing p with
  | nil =>
    cases led
    exact (List.append_nil _).symm
  | cons name names ih =>
    obtain ⟨down, plain⟩ := List.forall_mem_cons.1 plain
    rw [follow_cons, Option.bind_eq_some_iff] at led
    obtain ⟨p', first, rest⟩ := led
    obtain ⟨-, ⟨void, -⟩ | ⟨up, -⟩ | ⟨-, -, -, rfl⟩⟩ := follow_singleton_eq_some_iff.1 first
    · rw [down.ne_void] at void
      cases void
    · exact absurd up down.ne_up
    · rw [ih plain rest, List.append_assoc]
      rfl

/-- The names at the end of a path are those of the place that it leads to. -/
theorem suffix_of_place? {front last : List String} (names_eq : Path.names path = front ++ last)
    (plain : ∀ name ∈ last, Path.IsPlain name) (led : d.place? path = some q) : last <:+ q := by
  obtain ⟨-, led⟩ := place?_eq_some_iff.1 led
  have led := follow_filter led
  rw [show (path.splitOn "/").filter (!Path.isVoid ·) = front ++ last from names_eq, follow_append,
    Option.bind_eq_some_iff] at led
  obtain ⟨base, -, led⟩ := led
  exact ⟨base, (follow_plain plain led).symm⟩

end Disk

end FaceDecode
