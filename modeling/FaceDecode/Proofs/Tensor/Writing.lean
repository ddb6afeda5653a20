import FaceDecode.Proofs.Tensor.Building
import Mathlib.Data.List.Induction

namespace FaceDecode

theorem mul_add_inj {n a b a' b' : Nat} (hb : b < n) (hb' : b' < n) :
    a * n + b = a' * n + b' ↔ a = a' ∧ b = b' := by
  have quotient (a : Nat) {b : Nat} (hb : b < n) : (a * n + b) / n = a := by
    rw [Nat.add_comm, Nat.add_mul_div_right _ _ (Nat.zero_lt_of_lt hb), Nat.div_eq_of_lt hb,
      Nat.zero_add]
  constructor
  · intro same
    have first := congrArg (· / n) same
    simp only [quotient a hb, quotient a' hb'] at first
    subst first
    exact ⟨rfl, Nat.add_left_cancel same⟩
  · rintro ⟨rfl, rfl⟩
    rfl

namespace Tensor

variable {kind : TensorKind} {cells cell anchor : Nat} {t : Tensor kind cells}

abbrev place (kind : TensorKind) (cells cell anchor k : Nat) : Nat :=
  (anchor * kind.width + k) * cells + cell

theorem place_inj {cell' anchor' : Nat} {k k' : Fin kind.width} (hc : cell < cells)
    (hc' : cell' < cells) :
    place kind cells cell anchor k = place kind cells cell' anchor' k' ↔
      (anchor = anchor' ∧ k = k') ∧ cell = cell' := by
  rw [place, place, mul_add_inj hc hc', mul_add_inj k.2 k'.2, Fin.val_inj]

/-- Some values of an anchor are put down: those, and nothing else. -/
structure Put (t t' : Tensor kind cells) (cell anchor : Nat) (values : Vector Float32 kind.width)
    (done : Fin kind.width → Prop) : Prop where
  put : ∀ k, done k → t'.values[place kind cells cell anchor k]? = some (values.get k)
  kept : ∀ i, (∀ k, i ≠ place kind cells cell anchor (k : Fin kind.width)) → t'.values[i]? = t.values[i]?

theorem write_put (fits : kind.channels * cells < UInt64.size) (hc : cell < cells)
    (ha : anchor < anchorsPerCell) (values : Vector Float32 kind.width) :
    ∃ t', t.write cell anchor values = .ok t' ∧ Put t t' cell anchor values fun _ ↦ True := by
  have step (k : Fin kind.width) (left : List (Fin kind.width)) (t₁ : Tensor kind cells)
      (h : Put t t₁ cell anchor values (· ∉ k :: left)) :
      ∃ t₂, t₁.set (index kind cells cell anchor k) (values.get k) = .ok t₂ ∧
        Put t t₂ cell anchor values (· ∉ left) := by
    have inside := place_lt hc ha k
    have room : index kind cells cell anchor k < kind.length cells := by
      rw [index, TensorKind.length, Nat.mod_eq_of_lt fits, Nat.mod_eq_of_lt (inside.trans fits)]
      exact inside
    have here : index kind cells cell anchor k = place kind cells cell anchor k :=
      Nat.mod_eq_of_lt (inside.trans fits)
    refine ⟨_, dif_pos room, fun k' hk' ↦ ?_, fun i hi ↦ ?_⟩
    · rw [Vector.getElem?_set room, here]
      by_cases same : k = k'
      · subst same
        exact if_pos rfl
      · rw [if_neg fun h ↦ same (place_inj hc hc |>.1 h).1.2]
        exact h.put k' (by simp [hk', Ne.symm same])
    · rw [Vector.getElem?_set room, here, if_neg (Ne.symm (hi k))]
      exact h.kept i hi
  rw [write, Fin.foldlM_eq_foldlM_finRange]
  have start : Put t t cell anchor values (· ∉ List.finRange kind.width ++ []) :=
    ⟨fun k hk ↦ absurd (List.mem_append_left _ (List.mem_finRange k)) hk, fun _ _ ↦ rfl⟩
  obtain ⟨t', written, h⟩ := foldlM_invariant (fun left t' ↦ Put t t' cell anchor values (· ∉ left))
    step (List.finRange kind.width) [] t start
  exact ⟨t', written, fun k _ ↦ h.put k List.not_mem_nil, h.kept⟩

theorem Put.valuesOf_eq {t' : Tensor kind cells} {values : Vector Float32 kind.width}
    (h : Put t t' cell anchor values fun _ ↦ True) (hc : cell < cells) {cell' anchor' : Nat}
    (hc' : cell' < cells) :
    t'.valuesOf cell' anchor' =
      if cell = cell' ∧ anchor = anchor' then values else t.valuesOf cell' anchor' := by
  refine Vector.ext fun k hk ↦ ?_
  have read (t : Tensor kind cells) : (t.valuesOf cell' anchor')[k] =
      (t.values[place kind cells cell' anchor' k]?).getD 0 := Vector.getElem_ofFn hk
  by_cases same : cell = cell' ∧ anchor = anchor'
  · obtain ⟨rfl, rfl⟩ := same
    rw [if_pos ⟨rfl, rfl⟩, read, h.put ⟨k, hk⟩ ⟨⟩]
    rfl
  · rw [if_neg same, read, read, h.kept]
    intro k' there
    obtain ⟨⟨rfl, -⟩, rfl⟩ := (place_inj (k := ⟨k, hk⟩) hc' hc).1 there
    exact same ⟨rfl, rfl⟩

/-- Where the places of a kind wrap, two neighbouring values of an anchor never lie both inside. -/
theorem exists_outside (few : cells < UInt64.size) (held : kind.length cells ≤ maxLength)
    (counted : TensorKind.confidence.length cells ≤ maxLength)
    (wraps : UInt64.size ≤ TensorKind.confidence.channels * cells) (cell anchor : Nat) :
    ∃ k : Fin kind.width, kind.length cells ≤ index kind cells cell anchor k := by
  have two : 1 < kind.width := by cases kind <;> decide
  by_contra inside
  push Not at inside
  have first := inside ⟨0, Nat.zero_lt_of_lt two⟩
  have second := inside ⟨1, two⟩
  have next : (anchor * kind.width + 1) * cells + cell =
      (anchor * kind.width + 0) * cells + cell + cells := by
    rw [Nat.add_mul, Nat.one_mul, Nat.add_zero, Nat.add_right_comm]
  -- The two places differ by the number of cells, which is neither small nor close to a whole turn.
  rw [index] at first second
  rw [next] at second
  generalize (anchor * kind.width + 0) * cells + cell = place at first second
  simp only [TensorKind.length, TensorKind.channels, TensorKind.width, anchorsPerCell, maxLength,
    UInt64.size] at *
  omega

end Tensor

namespace ScaleTensors

structure Writing where
  cell : Nat
  anchor : Nat
  kind : TensorKind
  values : Vector Float32 kind.width

namespace Writing

def Within (w : Writing) (cells : Nat) : Prop := w.cell < cells ∧ w.anchor < anchorsPerCell

def valuesFor? (w : Writing) (kind : TensorKind) (cell anchor : Nat) :
    Option (Vector Float32 kind.width) :=
  if same : w.kind = kind then
    if w.cell = cell ∧ w.anchor = anchor then some (same ▸ w.values) else none
  else none

/-- The values of a kind that are written last for an anchor, and zeros if there are none. -/
def last (ws : List Writing) (kind : TensorKind) (cell anchor : Nat) : Vector Float32 kind.width :=
  (ws.reverse.findSome? (·.valuesFor? kind cell anchor)).getD (.replicate _ 0)

theorem last_concat (ws : List Writing) (w : Writing) (kind : TensorKind) (cell anchor : Nat) :
    last (ws ++ [w]) kind cell anchor =
      (w.valuesFor? kind cell anchor).getD (last ws kind cell anchor) := by
  rw [last, List.reverse_append, List.reverse_singleton, List.singleton_append, List.findSome?_cons]
  cases w.valuesFor? kind cell anchor <;> rfl

end Writing

def writeAll (s : ScaleTensors) (ws : List Writing) : Except OutOfRange ScaleTensors :=
  ws.foldlM (fun s w ↦ s.write w.cell w.anchor w.kind w.values) s

variable {s : ScaleTensors}

def replace (s : ScaleTensors) : (kind : TensorKind) → Tensor kind s.cells → ScaleTensors
  | .confidence, conf => { s with conf }
  | .location, loc => { s with loc }
  | .landmarks, landms => { s with landms }

theorem write_eq (cell anchor : Nat) (kind : TensorKind) (values : Vector Float32 kind.width) :
    s.write cell anchor kind values =
      s.replace kind <$> (s.tensor kind).write cell anchor values := by
  cases kind <;>
  · rw [map_eq_pure_bind]
    rfl

theorem cells_replace (kind : TensorKind) (t : Tensor kind s.cells) :
    (s.replace kind t).cells = s.cells := by
  cases kind <;> rfl

theorem valuesOf_replace (kind₀ kind : TensorKind) (t : Tensor kind₀ s.cells) (cell anchor : Nat) :
    ((s.replace kind₀ t).tensor kind).valuesOf cell anchor =
      if same : kind₀ = kind then same ▸ t.valuesOf cell anchor
      else (s.tensor kind).valuesOf cell anchor := by
  cases kind₀ <;> cases kind <;> rfl

/-- One writing changes the values of its kind for its anchor and no others. -/
theorem write_spec (fits : ∀ kind : TensorKind, kind.channels * s.cells < UInt64.size) {w : Writing}
    (within : w.Within s.cells) :
    ∃ s', s.write w.cell w.anchor w.kind w.values = .ok s' ∧ s'.cells = s.cells ∧
      ∀ kind cell anchor, cell < s.cells →
        (s'.tensor kind).valuesOf cell anchor =
          (w.valuesFor? kind cell anchor).getD ((s.tensor kind).valuesOf cell anchor) := by
  obtain ⟨cell₀, anchor₀, kind₀, values⟩ := w
  obtain ⟨hc, ha⟩ := within
  obtain ⟨t, written, put⟩ := (s.tensor kind₀).write_put (fits kind₀) hc ha values
  refine ⟨s.replace kind₀ t, ?_, cells_replace kind₀ t, fun kind cell anchor hc' ↦ ?_⟩
  · rw [write_eq, written]
    rfl
  · rw [valuesOf_replace, Writing.valuesFor?]
    by_cases same : kind₀ = kind
    · subst same
      rw [dif_pos rfl, dif_pos rfl, put.valuesOf_eq hc hc']
      split <;> rfl
    · rw [dif_neg same, dif_neg same]
      rfl

/-- After any number of writings each anchor has the values that were written last for it. -/
theorem writeAll_spec (fits : ∀ kind : TensorKind, kind.channels * s.cells < UInt64.size)
    {ws : List Writing} (within : ∀ w ∈ ws, w.Within s.cells)
    (blank : ∀ kind cell anchor, (s.tensor kind).valuesOf cell anchor = .replicate _ 0) :
    ∃ s', s.writeAll ws = .ok s' ∧ s'.cells = s.cells ∧
      ∀ kind cell anchor, cell < s.cells →
        (s'.tensor kind).valuesOf cell anchor = Writing.last ws kind cell anchor := by
  -- From the back, since the last writing decides.
  induction ws using List.reverseRecOn with
  | nil => exact ⟨s, rfl, rfl, fun kind cell anchor _ ↦ blank kind cell anchor⟩
  | append_singleton ws w ih =>
    obtain ⟨s₁, before, same, holds⟩ := ih fun w' h ↦ within w' (List.mem_append_left _ h)
    rw [← same] at fits
    obtain ⟨s₂, written, same', holds'⟩ := write_spec fits (same ▸ within w (by simp))
    refine ⟨s₂, ?_, same'.trans same, fun kind cell anchor hc ↦ ?_⟩
    · rw [writeAll] at before ⊢
      rw [List.foldlM_append, before]
      exact (bind_pure _).trans written
    · rw [holds' kind cell anchor (same ▸ hc), holds kind cell anchor hc, Writing.last_concat]

theorem eq_zeros_of_zeros? {cells : Nat} (made : zeros? cells = some s) : s = zeros cells := by
  have blank {kind : TensorKind} {t : Tensor kind cells} (h : Tensor.zeros? = some t) :
      t = ⟨.replicate _ 0⟩ := by
    unfold Tensor.zeros? at h
    split at h
    case isTrue => exact (Option.some.inj h).symm
    case isFalse => cases h
  simp only [zeros?, Option.bind_eq_bind, Option.bind_eq_some_iff] at made
  obtain ⟨conf, hconf, loc, hloc, landms, hlandms, same⟩ := made
  cases same
  rw [blank hconf, blank hloc, blank hlandms]
  rfl

theorem valuesOf_zeros (cells : Nat) (kind : TensorKind) (cell anchor : Nat) :
    ((zeros cells).tensor kind).valuesOf cell anchor = .replicate _ 0 := by
  have blank : (zeros cells).tensor kind = ⟨.replicate _ 0⟩ := by cases kind <;> rfl
  refine Vector.ext fun k hk ↦ ?_
  rw [blank, Vector.getElem_replicate]
  refine (Vector.getElem_ofFn hk).trans ?_
  rw [Tensor.value?, Vector.getElem?_replicate]
  split <;> rfl

/-- With so many cells that places wrap, nothing can be written. -/
theorem write_eq_error (few : s.cells < UInt64.size) (held : s.Held)
    (wraps : UInt64.size ≤ TensorKind.confidence.channels * s.cells) (cell anchor : Nat)
    (kind : TensorKind) (values : Vector Float32 kind.width) :
    ∃ e, s.write cell anchor kind values = .error e := by
  obtain ⟨k, outside⟩ :=
    Tensor.exists_outside few (held kind) (held .confidence) wraps cell anchor
  have stuck (t : Tensor kind s.cells) :
      ∃ e, t.set (Tensor.index kind s.cells cell anchor k) (values.get k) = .error e :=
    ⟨_, dif_neg (Nat.not_lt_of_le outside)⟩
  obtain ⟨e, failed⟩ := foldlM_eq_error (g := fun t (k : Fin kind.width) ↦
    Tensor.set t (Tensor.index kind s.cells cell anchor k) (values.get k)) (List.mem_finRange k)
    stuck (s.tensor kind)
  refine ⟨e, ?_⟩
  rw [write_eq, Tensor.write, Fin.foldlM_eq_foldlM_finRange, failed]
  rfl

end ScaleTensors

end FaceDecode
