import FaceDecode.Proofs.Tensor.Recognition

namespace FaceDecode

open scoped List

theorem pair_sublist_iff {α : Type} {front back : List α} {a b : α}
    (nodup : (front ++ b :: back).Nodup) : [a, b] <+ front ++ b :: back ↔ a ∈ front := by
  have last : b ∉ back := (List.nodup_cons.1 nodup.of_append_right).1
  constructor
  · intro h
    obtain ⟨l₁, l₂, split, hfront, hback⟩ := List.sublist_append_iff.1 h
    rcases l₁ with - | ⟨c, l₁⟩
    · obtain rfl : [a, b] = l₂ := split
      rcases List.cons_sublist_cons'.1 hback with h | ⟨-, h⟩
      · exact absurd (h.subset (by simp)) last
      · exact absurd (h.subset (by simp)) last
    · obtain rfl : a = c := (List.cons.inj split).1
      exact hfront.subset List.mem_cons_self
  · intro h
    have hb : [b] <+ b :: back := List.singleton_sublist.2 List.mem_cons_self
    exact (List.singleton_sublist.2 h).append hb

variable {cells : Vector Nat scaleCount}

namespace Slot

def Before (s t : Slot) : Prop := [s, t] <+ all

instance (s t : Slot) : Decidable (s.Before t) := inferInstanceAs (Decidable ([s, t] <+ all))

theorem before_iff {s t : Slot} :
    s.Before t ↔ s.scale < t.scale ∨ s.scale = t.scale ∧ [s.kind, t.kind] <+ TensorKind.all := by
  obtain ⟨scale, kind⟩ := s
  obtain ⟨scale', kind'⟩ := t
  cases kind <;> cases kind' <;> revert scale scale' <;> decide

theorem before_trichotomy (s t : Slot) : s.Before t ∨ s = t ∨ t.Before s := by
  obtain ⟨scale, kind⟩ := s
  obtain ⟨scale', kind'⟩ := t
  cases kind <;> cases kind' <;> revert scale scale' <;> decide

/-- Whether a slot is the first one for tensors of some length. -/
structure Takes (cells : Vector Nat scaleCount) (length : Nat) (slot : Slot) : Prop where
  length_eq : slot.length cells = length
  first : ∀ s : Slot, s.Before slot → s.length cells ≠ length

theorem ofLength?_eq_some_iff {n : Nat} {slot : Slot} :
    ofLength? cells n = some slot ↔ slot.Takes cells n := by
  constructor
  · intro h
    obtain ⟨-, front, back, split, skipped⟩ := List.find?_eq_some_iff_append.1 h
    refine ⟨length_of_ofLength? h, ?_⟩
    intro s before
    rw [Before, split, pair_sublist_iff (split ▸ all_nodup)] at before
    simpa using skipped s before
  · rintro ⟨same, first⟩
    obtain ⟨front, back, split⟩ := List.append_of_mem (mem_all slot)
    refine List.find?_eq_some_iff_append.2 ⟨by simp [same], front, back, split, ?_⟩
    intro s hs
    have before : s.Before slot := by
      rwa [Before, split, pair_sublist_iff (split ▸ all_nodup)]
    simpa using first s before

theorem ofLength?_eq_none_iff {n : Nat} :
    ofLength? cells n = none ↔ ∀ slot : Slot, slot.length cells ≠ n := by
  simp [ofLength?, List.find?_eq_none, mem_all]

end Slot

namespace Frame

variable {tensors : List (Array Float32)} {values : Array Float32} {filling : Filling}
  {e : FrameError}

/-- Whether one of the tensors goes to a slot. -/
def Filled (cells : Vector Nat scaleCount) (tensors : List (Array Float32)) (slot : Slot) : Prop :=
  ∃ values ∈ tensors, slot.Takes cells values.size

/-- What is wrong with a tensor after the ones before it. -/
inductive Fault (cells : Vector Nat scaleCount) (earlier : List (Array Float32))
    (values : Array Float32) : FrameError → Prop
  | unrecognized (unknown : ∀ slot : Slot, slot.length cells ≠ values.size) :
      Fault cells earlier values (.unrecognized values.size)
  | duplicate {slot : Slot} (leads : slot.Takes cells values.size)
      (taken : Filled cells earlier slot) :
      Fault cells earlier values (.duplicate slot.scale slot.kind)

/-- Whether nothing is wrong with any of the tensors. -/
def Flawless (cells : Vector Nat scaleCount) (tensors : List (Array Float32)) : Prop :=
  ∀ earlier values later e, tensors = earlier ++ values :: later → ¬ Fault cells earlier values e

/-- What is wrong with tensors none of which is wrong in itself. -/
inductive Gap (cells : Vector Nat scaleCount) (tensors : List (Array Float32)) : FrameError → Prop
  | missing {slot : Slot} (empty : ¬ Filled cells tensors slot)
      (filled : ∀ s : Slot, s.Before slot → Filled cells tensors s) :
      Gap cells tensors (.missing slot.scale slot.kind)

theorem Gap.unique {e' : FrameError} (h : Gap cells tensors e) (h' : Gap cells tensors e') :
    e = e' := by
  obtain @⟨slot, empty, filled⟩ := h
  obtain @⟨slot', empty', filled'⟩ := h'
  rcases slot.before_trichotomy slot' with before | rfl | before
  · exact absurd (filled' slot before) empty
  · rfl
  · exact absurd (filled slot' before) empty'

theorem take_eq_error {slot : Slot} : filling.take slot = .error e ↔
    ¬ (filling.lookup slot).isSome ∧ e = .missing slot.scale slot.kind := by
  unfold Filling.take
  split
  case h_1 found => simp [found]
  case h_2 found => simp [found, eq_comm]

section Placed

variable (sound : filling.Sound cells) (order : filling.map Prod.snd = tensors.reverse)
include sound order

theorem lookup_isSome_iff_filled {slot : Slot} :
    (filling.lookup slot).isSome ↔ Filled cells tensors slot := by
  rw [lookup_isSome_iff]
  constructor
  · intro h
    obtain ⟨⟨_, values⟩, there, rfl⟩ := List.mem_map.1 h
    have listed : values ∈ filling.map Prod.snd := List.mem_map_of_mem there
    rw [order, List.mem_reverse] at listed
    exact ⟨values, listed, Slot.ofLength?_eq_some_iff.1 (sound.placed _ there)⟩
  · rintro ⟨values, listed, leads⟩
    rw [← List.mem_reverse, ← order] at listed
    obtain ⟨⟨slot', _⟩, there, rfl⟩ := List.mem_map.1 listed
    have leads' := sound.placed _ there
    rw [Slot.ofLength?_eq_some_iff.2 leads, Option.some.injEq] at leads'
    rw [leads']
    exact List.mem_map_of_mem there

theorem place_eq_error : place cells filling values = .error e ↔ Fault cells tensors values e := by
  unfold place
  cases found : Slot.ofLength? cells values.size with
  | none =>
    have unknown := Slot.ofLength?_eq_none_iff.1 found
    constructor
    · intro h
      cases h
      exact .unrecognized unknown
    · rintro (_ | ⟨leads, -⟩)
      · rfl
      · exact absurd leads.length_eq (unknown _)
  | some slot =>
    have leads := Slot.ofLength?_eq_some_iff.1 found
    constructor
    · intro h
      simp only at h
      split at h
      case isTrue taken =>
        cases h
        exact .duplicate leads ((lookup_isSome_iff_filled sound order).1 taken)
      case isFalse => cases h
    · rintro (unknown | ⟨leads', taken⟩)
      · exact absurd leads.length_eq (unknown slot)
      · rw [Slot.ofLength?_eq_some_iff.2 leads', Option.some.injEq] at found
        rw [← found]
        exact if_pos ((lookup_isSome_iff_filled sound order).2 taken)

omit order in
theorem ofArrays_ne_error {scale : Fin scaleCount} {conf loc landms : Array Float32}
    (hconf : filling.lookup ⟨scale, .confidence⟩ = some conf)
    (hloc : filling.lookup ⟨scale, .location⟩ = some loc)
    (hlandms : filling.lookup ⟨scale, .landmarks⟩ = some landms) :
    ScaleTensors.ofArrays scale (cells.get scale) conf loc landms ≠ .error e := by
  have fits {slot : Slot} {values : Array Float32} (found : filling.lookup slot = some values) :
      values.size = slot.length cells := by
    have there := (lookup_eq_some sound.nodup).1 found
    exact (Slot.length_of_ofLength? (sound.placed _ there)).symm
  let s : ScaleTensors :=
    ⟨cells.get scale, ⟨⟨conf, fits hconf⟩⟩, ⟨⟨loc, fits hloc⟩⟩, ⟨⟨landms, fits hlandms⟩⟩⟩
  have made : ScaleTensors.ofArrays scale (cells.get scale) conf loc landms = .ok s :=
    ScaleTensors.ofArrays_eq_ok.2 ⟨rfl, rfl, rfl, rfl⟩
  rw [made]
  simp

section Scale

variable {scale : Fin scaleCount} (passed : ∀ s < scale, ∃ t, filling.scale cells s = .ok t)
include passed

theorem gap_of_lookup {kind : TensorKind} (lacks : ¬ (filling.lookup ⟨scale, kind⟩).isSome)
    (ahead : ∀ k, [k, kind] <+ TensorKind.all → (filling.lookup ⟨scale, k⟩).isSome) :
    Gap cells tensors (.missing scale kind) := by
  refine Gap.missing (mt (lookup_isSome_iff_filled sound order).2 lacks) ?_
  rintro ⟨s, k⟩ before
  refine (lookup_isSome_iff_filled sound order).1 ?_
  rcases Slot.before_iff.1 before with lower | ⟨rfl, before⟩
  · obtain ⟨t, built⟩ := passed s lower
    exact Option.isSome_of_eq_some ((scale_eq_ok.1 built).2 k)
  · exact ahead k before

theorem gap_of_scale (failed : filling.scale cells scale = .error e) : Gap cells tensors e := by
  simp only [Filling.scale, bind_eq_error, take_eq_ok, take_eq_error] at failed
  rcases failed with ⟨lacks, rfl⟩ | ⟨conf, hconf, ⟨lacks, rfl⟩ | ⟨loc, hloc, ⟨lacks, rfl⟩ |
    ⟨landms, hlandms, wrong⟩⟩⟩
  · refine gap_of_lookup sound order passed lacks ?_
    intro k before
    cases k <;> exact absurd before (by decide)
  · refine gap_of_lookup sound order passed lacks ?_
    intro k before
    cases k with
    | confidence => exact Option.isSome_of_eq_some hconf
    | location | landmarks => exact absurd before (by decide)
  · refine gap_of_lookup sound order passed lacks ?_
    intro k before
    cases k with
    | confidence => exact Option.isSome_of_eq_some hconf
    | location => exact Option.isSome_of_eq_some hloc
    | landmarks => exact absurd before (by decide)
  · exact absurd wrong (ofArrays_ne_error sound hconf hloc hlandms)

end Scale

end Placed

theorem placeAll_eq_error : tensors.foldlM (place cells) [] = .error e ↔
    ∃ earlier values later, tensors = earlier ++ values :: later ∧
      (∃ filling, earlier.foldlM (place cells) [] = .ok filling) ∧
        Fault cells earlier values e := by
  rw [foldlM_eq_error_iff]
  constructor
  · rintro ⟨earlier, values, later, filling, split, placed, failed⟩
    obtain ⟨sound, order⟩ := placeAll_eq_ok.1 placed
    exact ⟨earlier, values, later, split, ⟨filling, placed⟩, (place_eq_error sound order).1 failed⟩
  · rintro ⟨earlier, values, later, split, ⟨filling, placed⟩, fault⟩
    obtain ⟨sound, order⟩ := placeAll_eq_ok.1 placed
    exact ⟨earlier, values, later, filling, split, placed, (place_eq_error sound order).2 fault⟩

theorem exists_placed_iff : (∃ filling, tensors.foldlM (place cells) [] = .ok filling) ↔
    Flawless cells tensors := by
  constructor
  · rintro ⟨filling, placed⟩ earlier values later e rfl fault
    have front := placed
    rw [List.foldlM_append, bind_eq_ok] at front
    obtain ⟨before, front, -⟩ := front
    rw [placeAll_eq_error.2 ⟨earlier, values, later, rfl, ⟨before, front⟩, fault⟩] at placed
    cases placed
  · intro flawless
    cases placed : tensors.foldlM (place cells) [] with
    | ok filling => exact ⟨filling, rfl⟩
    | error e =>
      obtain ⟨earlier, values, later, split, -, fault⟩ := placeAll_eq_error.1 placed
      exact absurd fault (flawless earlier values later e split)

theorem gap_of_recognize (placed : tensors.foldlM (place cells) [] = .ok filling)
    (failed : recognize cells tensors = .error e) : Gap cells tensors e := by
  obtain ⟨sound, order⟩ := placeAll_eq_ok.1 placed
  rw [recognize, placed] at failed
  change (filling.scale cells 0 >>= _) = _ at failed
  rcases bind_eq_error.1 failed with first | ⟨first, h₀, failed⟩
  · refine gap_of_scale sound order ?_ first
    intro s lower
    exact absurd lower (Nat.not_lt_zero s)
  rcases bind_eq_error.1 failed with second | ⟨second, h₁, failed⟩
  · refine gap_of_scale sound order ?_ second
    intro s lower
    have below : ∀ s : Fin scaleCount, s < 1 → s = 0 := by decide
    obtain rfl := below s lower
    exact ⟨first, h₀⟩
  rcases bind_eq_error.1 failed with third | ⟨third, -, made⟩
  · refine gap_of_scale sound order ?_ third
    intro s lower
    have below : ∀ s : Fin scaleCount, s < 2 → s = 0 ∨ s = 1 := by decide
    rcases below s lower with rfl | rfl
    · exact ⟨first, h₀⟩
    · exact ⟨second, h₁⟩
  · cases made

theorem filled_of_recognize {f : Frame} (h : recognize cells tensors = .ok f) (slot : Slot) :
    Filled cells tensors slot := by
  obtain ⟨filling, sound, order, -, found⟩ := recognize_eq_ok.1 h
  exact (lookup_isSome_iff_filled sound order).1 (Option.isSome_of_eq_some (found slot))

theorem recognize_eq_error_iff : recognize cells tensors = .error e ↔
    (∃ earlier values later, tensors = earlier ++ values :: later ∧ Flawless cells earlier ∧
      Fault cells earlier values e) ∨
    Flawless cells tensors ∧ Gap cells tensors e := by
  simp only [← exists_placed_iff, ← placeAll_eq_error]
  constructor
  · intro failed
    cases placed : tensors.foldlM (place cells) [] with
    | error e' =>
      rw [recognize, placed] at failed
      cases failed
      exact .inl rfl
    | ok filling => exact .inr ⟨⟨filling, rfl⟩, gap_of_recognize placed failed⟩
  · rintro (failed | ⟨⟨filling, placed⟩, gap⟩)
    · rw [recognize, failed]
      rfl
    · cases h : recognize cells tensors with
      | error e' => rw [(gap_of_recognize placed h).unique gap]
      | ok f =>
        obtain @⟨slot, empty, -⟩ := gap
        exact absurd (filled_of_recognize h slot) empty

variable (cells tensors) in
/-- Tensors are refused with the fault of the first of them that is wrong after those before it, and
where none is, with the first slot that is left empty. -/
theorem recognize_refuses :
    (∀ e, recognize cells tensors = .error e ↔
      (∃ earlier values later, tensors = earlier ++ values :: later ∧ Flawless cells earlier ∧
        Fault cells earlier values e) ∨
      Flawless cells tensors ∧ Gap cells tensors e) ∧
    ∀ scale kind expected actual,
      recognize cells tensors ≠ .error (.wrongLength scale kind expected actual) := by
  refine ⟨fun e ↦ recognize_eq_error_iff, ?_⟩
  intro scale kind expected actual failed
  rcases recognize_eq_error_iff.1 failed with ⟨_, _, _, -, -, fault⟩ | ⟨-, gap⟩
  · cases fault
  · cases gap

end Frame

end FaceDecode
