import FaceDecode.Proofs.Tensor.Filling
import Mathlib.Data.List.Perm.Basic

namespace FaceDecode

namespace ScaleTensors

theorem fit_eq_ok {scale cells : Nat} {kind : TensorKind} {values : Array Float32}
    {t : Tensor kind cells} :
    fit scale kind cells values = .ok t ↔ t.values.toArray = values := by
  unfold fit Tensor.ofArray?
  by_cases h : values.size = kind.length cells
  · rw [dif_pos h]
    constructor
    · intro fits
      cases fits
      rfl
    · rintro rfl
      rfl
  · rw [dif_neg h]
    refine iff_of_false (by simp) ?_
    rintro rfl
    exact h t.values.size_toArray

theorem ofArrays_eq_ok {scale cells : Nat} {conf loc landms : Array Float32} {s : ScaleTensors} :
    ofArrays scale cells conf loc landms = .ok s ↔
      s.cells = cells ∧ s.conf.values.toArray = conf ∧ s.loc.values.toArray = loc ∧
        s.landms.values.toArray = landms := by
  simp only [ofArrays, bind_eq_ok, fit_eq_ok]
  constructor
  · rintro ⟨conf, rfl, loc, rfl, landms, rfl, h⟩
    cases h
    exact ⟨rfl, rfl, rfl, rfl⟩
  · obtain ⟨_, conf, loc, landms⟩ := s
    rintro ⟨rfl, rfl, rfl, rfl⟩
    exact ⟨conf, rfl, loc, rfl, landms, rfl, rfl⟩

end ScaleTensors

namespace Frame

variable {cells : Vector Nat scaleCount} {filling : Filling} {tensors : List (Array Float32)}
  {f : Frame}

theorem take_eq_ok {slot : Slot} {values : Array Float32} :
    filling.take slot = .ok values ↔ filling.lookup slot = some values := by
  unfold Filling.take
  split
  case h_1 found => simp [found]
  case h_2 found => simp [found]

theorem scale_eq_ok {scale : Fin scaleCount} {s : ScaleTensors} :
    filling.scale cells scale = .ok s ↔
      s.cells = cells.get scale ∧
        ∀ kind, filling.lookup ⟨scale, kind⟩ = some (s.tensor kind).values.toArray := by
  simp only [Filling.scale, bind_eq_ok, take_eq_ok, ScaleTensors.ofArrays_eq_ok]
  constructor
  · rintro ⟨_, conf, _, loc, _, landms, same, rfl, rfl, rfl⟩
    refine ⟨same, fun kind ↦ ?_⟩
    cases kind with
    | confidence => exact conf
    | location => exact loc
    | landmarks => exact landms
  · rintro ⟨same, found⟩
    exact ⟨_, found .confidence, _, found .location, _, found .landmarks, same, rfl, rfl, rfl⟩

def contents (f : Frame) (slot : Slot) : Array Float32 :=
  ((f.scales.get slot.scale).tensor slot.kind).values.toArray

theorem scales_eq (scales : Vector ScaleTensors scaleCount) :
    #v[scales.get 0, scales.get 1, scales.get 2] = scales := by
  refine Vector.ext fun i hi ↦ ?_
  match i, hi with
  | 0, _ | 1, _ | 2, _ => rfl

theorem cells_eq_iff : f.cells = cells ↔ ∀ scale, (f.scales.get scale).cells = cells.get scale := by
  constructor
  · rintro rfl scale
    simp [Frame.cells, Vector.get]
    rfl
  · intro h
    refine Vector.ext fun i hi ↦ ?_
    have there := h ⟨i, hi⟩
    simpa [Frame.cells, Vector.get] using there

theorem recognize_eq_ok :
    recognize cells tensors = .ok f ↔
      ∃ filling : Filling, filling.Sound cells ∧ filling.map Prod.snd = tensors.reverse ∧
        f.cells = cells ∧ ∀ slot, filling.lookup slot = some (f.contents slot) := by
  simp only [recognize, bind_eq_ok, placeAll_eq_ok, scale_eq_ok, cells_eq_iff]
  constructor
  · rintro ⟨filling, ⟨sound, order⟩, first, h₀, second, h₁, third, h₂, h⟩
    cases h
    refine ⟨filling, sound, order, fun scale ↦ ?_, fun ⟨scale, kind⟩ ↦ ?_⟩
    · match scale with
      | 0 => exact h₀.1
      | 1 => exact h₁.1
      | 2 => exact h₂.1
    · match scale with
      | 0 => exact h₀.2 kind
      | 1 => exact h₁.2 kind
      | 2 => exact h₂.2 kind
  · rintro ⟨filling, sound, order, same, found⟩
    refine ⟨filling, ⟨sound, order⟩, f.scales.get 0, ⟨same 0, fun kind ↦ found ⟨0, kind⟩⟩,
      f.scales.get 1, ⟨same 1, fun kind ↦ found ⟨1, kind⟩⟩,
      f.scales.get 2, ⟨same 2, fun kind ↦ found ⟨2, kind⟩⟩, ?_⟩
    rw [scales_eq]
    rfl

theorem size_contents (same : f.cells = cells) (slot : Slot) :
    (f.contents slot).size = slot.length cells := by
  rw [contents, Vector.size_toArray, cells_eq_iff.1 same]
  rfl

theorem filling_perm (sound : filling.Sound cells)
    (found : ∀ slot, filling.lookup slot = some (f.contents slot)) :
    filling.Perm (Slot.all.map fun slot ↦ (slot, f.contents slot)) := by
  have there (slot : Slot) : (slot, f.contents slot) ∈ filling :=
    (lookup_eq_some sound.nodup).1 (found slot)
  have distinct : (Slot.all.map fun slot ↦ (slot, f.contents slot)).Nodup :=
    Slot.all_nodup.map fun a b h ↦ congrArg Prod.fst h
  rw [List.perm_ext_iff_of_nodup (.of_map _ sound.nodup) distinct]
  rintro ⟨slot, values⟩
  simp only [List.mem_map, Prod.mk.injEq]
  constructor
  · intro h
    have same := (found slot).symm.trans ((lookup_eq_some sound.nodup).2 h)
    exact ⟨slot, Slot.mem_all slot, rfl, Option.some.inj same⟩
  · rintro ⟨_, -, rfl, rfl⟩
    exact there _

theorem sound_slots (leads : ∀ slot, Slot.ofLength? cells (f.contents slot).size = some slot)
    {slots : List Slot} (nodup : slots.Nodup) :
    Filling.Sound cells (slots.map fun slot ↦ (slot, f.contents slot)) := by
  refine ⟨by simpa [Function.comp_def] using nodup, ?_⟩
  intro p hp
  obtain ⟨slot, -, rfl⟩ := List.mem_map.1 hp
  exact leads slot

/-- Tensors are recognized as a frame just where they are its tensors in some order and no two slots
ask for the same length. -/
theorem recognize_eq_ok_iff :
    recognize cells tensors = .ok f ↔
      f.cells = cells ∧ (Slot.all.map (Slot.length cells)).Nodup ∧
        tensors.Perm (Slot.all.map f.contents) := by
  rw [recognize_eq_ok]
  constructor
  · rintro ⟨filling, sound, order, same, found⟩
    refine ⟨same, Slot.ofLength?_length_iff.1 fun slot ↦ ?_, ?_⟩
    · have leads := sound.placed _ ((lookup_eq_some sound.nodup).1 (found slot))
      rwa [size_contents same] at leads
    · have perm := (filling_perm sound found).map Prod.snd
      rw [order, List.map_map] at perm
      exact (List.reverse_perm tensors).symm.trans perm
  · rintro ⟨same, distinct, perm⟩
    have leads (slot : Slot) : Slot.ofLength? cells (f.contents slot).size = some slot := by
      rw [size_contents same]
      exact Slot.ofLength?_length_iff.2 distinct slot
    -- The slots in the order in which the tensors fill them, the last one first.
    have ordered := (List.reverse_perm tensors).trans perm
    obtain ⟨slots, order, slots_perm⟩ :=
      (congrFun₂ (List.eq_map_comp_perm f.contents) _ _).mpr ordered
    have sound := sound_slots leads (slots_perm.nodup_iff.2 Slot.all_nodup)
    refine ⟨_, sound, ?_, same, fun slot ↦ ?_⟩
    · rw [order, List.map_map]
      rfl
    · rw [lookup_eq_some sound.nodup, List.mem_map]
      exact ⟨slot, slots_perm.mem_iff.2 (Slot.mem_all slot), rfl⟩

def ofContents (values : Slot → Array Float32)
    (fits : ∀ slot, (values slot).size = slot.length cells) : Frame where
  scales := .ofFn fun scale ↦
    { cells := cells.get scale
      conf := ⟨⟨values ⟨scale, .confidence⟩, fits _⟩⟩
      loc := ⟨⟨values ⟨scale, .location⟩, fits _⟩⟩
      landms := ⟨⟨values ⟨scale, .landmarks⟩, fits _⟩⟩ }

variable {values : Slot → Array Float32} (fits : ∀ slot, (values slot).size = slot.length cells)

theorem scales_ofContents (scale : Fin scaleCount) :
    (ofContents values fits).scales.get scale =
      { cells := cells.get scale
        conf := ⟨⟨values ⟨scale, .confidence⟩, fits _⟩⟩
        loc := ⟨⟨values ⟨scale, .location⟩, fits _⟩⟩
        landms := ⟨⟨values ⟨scale, .landmarks⟩, fits _⟩⟩ } :=
  Vector.getElem_ofFn scale.2

theorem cells_ofContents : (ofContents values fits).cells = cells := by
  rw [cells_eq_iff]
  intro scale
  rw [scales_ofContents]

theorem contents_ofContents : (ofContents values fits).contents = values := by
  funext ⟨scale, kind⟩
  rw [contents, scales_ofContents]
  cases kind <;> rfl

theorem exists_recognize_eq_ok (distinct : (Slot.all.map (Slot.length cells)).Nodup)
    (sizes : (tensors.map (·.size)).Perm (Slot.all.map (Slot.length cells))) :
    ∃ f, recognize cells tensors = .ok f := by
  have found (slot : Slot) : ∃ values ∈ tensors, values.size = slot.length cells := by
    have there := sizes.mem_iff.2 (List.mem_map_of_mem (Slot.mem_all slot))
    exact List.mem_map.1 there
  choose values there fits using found
  have once : (tensors.map (·.size)).Nodup := sizes.nodup_iff.2 distinct
  have values_nodup : (Slot.all.map values).Nodup := by
    refine List.Nodup.of_map (·.size) ?_
    rw [List.map_map]
    exact (List.map_congr_left fun slot _ ↦ fits slot) ▸ distinct
  refine ⟨ofContents values fits, recognize_eq_ok_iff.2 ⟨cells_ofContents fits, distinct, ?_⟩⟩
  rw [contents_ofContents, List.perm_ext_iff_of_nodup (.of_map _ once) values_nodup]
  intro t
  rw [List.mem_map]
  constructor
  · intro ht
    have size := sizes.mem_iff.1 (List.mem_map_of_mem ht)
    obtain ⟨slot, -, same⟩ := List.mem_map.1 size
    refine ⟨slot, Slot.mem_all slot, ?_⟩
    exact List.inj_on_of_nodup_map once (there slot) ht ((fits slot).trans same)
  · rintro ⟨slot, -, rfl⟩
    exact there slot

def lengths (cells : Vector Nat scaleCount) : List Nat :=
  cells.toList.flatMap fun n ↦ [4 * n, 8 * n, 20 * n]

theorem lengths_eq :
    lengths cells = Slot.all.map fun slot ↦ slot.kind.channels * cells.get slot.scale := by
  have scales : cells.toList = [cells.get 0, cells.get 1, cells.get 2] := by
    refine List.ext_getElem (by simp) fun i hi _ ↦ ?_
    match i, hi with
    | 0, _ | 1, _ | 2, _ => simp [Vector.get]
  rw [lengths, scales]
  rfl

theorem slot_length_eq (counted : ∀ n ∈ lengths cells, n < UInt64.size) (slot : Slot) :
    slot.length cells = slot.kind.channels * cells.get slot.scale := by
  refine Nat.mod_eq_of_lt (counted _ ?_)
  rw [lengths_eq]
  exact List.mem_map_of_mem (f := fun slot : Slot ↦ slot.kind.channels * cells.get slot.scale)
    (Slot.mem_all slot)

theorem map_length_all (counted : ∀ n ∈ lengths cells, n < UInt64.size) :
    Slot.all.map (Slot.length cells) = lengths cells := by
  rw [lengths_eq]
  exact List.map_congr_left fun slot _ ↦ slot_length_eq counted slot

theorem filter_size (h : recognize cells tensors = .ok f) (slot : Slot) :
    tensors.filter (·.size = slot.length cells) = [f.contents slot] := by
  obtain ⟨same, distinct, perm⟩ := recognize_eq_ok_iff.1 h
  have alone : Slot.all.filter (fun s ↦ (f.contents s).size = slot.length cells) = [slot] := by
    have exact_slot (s : Slot) : (f.contents s).size = slot.length cells ↔ s = slot := by
      rw [size_contents same]
      refine ⟨fun h ↦ ?_, congrArg _⟩
      exact List.inj_on_of_nodup_map distinct (Slot.mem_all s) (Slot.mem_all slot) h
    simp only [exact_slot]
    rw [List.filter_eq, List.count_eq_one_of_mem Slot.all_nodup (Slot.mem_all slot)]
    rfl
  have filtered := perm.filter fun values ↦ decide (values.size = slot.length cells)
  rw [List.filter_map] at filtered
  refine List.perm_singleton.1 (filtered.trans ?_)
  exact .of_eq (congrArg (List.map f.contents) alone)

/-- Tensors are recognized as a frame just where the lengths of a frame are all different and the
tensors have these lengths in some order. Each then stands unchanged in the slot of its length, and
their order makes no difference. -/
theorem recognize_by_length (counted : ∀ n ∈ lengths cells, n < UInt64.size)
    (tensors : List (Array Float32)) :
    ((∃ f, recognize cells tensors = .ok f) ↔
      (lengths cells).Nodup ∧ (tensors.map (·.size)).Perm (lengths cells)) ∧
    ∀ f, recognize cells tensors = .ok f →
      f.cells = cells ∧
      (∀ slot : Slot, tensors.filter (·.size = slot.kind.channels * cells.get slot.scale) =
        [f.contents slot]) ∧
      ∀ other, other.Perm tensors → recognize cells other = .ok f := by
  rw [← map_length_all counted]
  refine ⟨⟨?_, fun h ↦ exists_recognize_eq_ok h.1 h.2⟩, fun f h ↦ ⟨?_, fun slot ↦ ?_, ?_⟩⟩
  · rintro ⟨f, h⟩
    obtain ⟨same, distinct, perm⟩ := recognize_eq_ok_iff.1 h
    have sizes := perm.map (·.size)
    rw [List.map_map] at sizes
    exact ⟨distinct, (List.map_congr_left fun slot _ ↦ size_contents same slot) ▸ sizes⟩
  · exact (recognize_eq_ok_iff.1 h).1
  · rw [← slot_length_eq counted]
    exact filter_size h slot
  · intro other perm
    obtain ⟨same, distinct, perm'⟩ := recognize_eq_ok_iff.1 h
    exact recognize_eq_ok_iff.2 ⟨same, distinct, perm.trans perm'⟩

theorem recognize_reversed :
    (∀ n ∈ lengths #v[16, 4, 1], n < UInt64.size) ∧
      ∃ f, recognize #v[16, 4, 1] ((lengths #v[16, 4, 1]).reverse.map (.replicate · 0)) = .ok f ∧
        f.cells = #v[16, 4, 1] := by
  have counted : ∀ n ∈ lengths #v[16, 4, 1], n < UInt64.size := by decide
  obtain ⟨recognized, content⟩ := recognize_by_length counted
    ((lengths #v[16, 4, 1]).reverse.map (.replicate · 0))
  obtain ⟨f, h⟩ := recognized.2 ⟨by decide, by simp [Function.comp_def]⟩
  exact ⟨counted, f, h, (content f h).1⟩

end Frame

end FaceDecode
