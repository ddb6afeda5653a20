import FaceDecode.Proofs.Detector.Report
import FaceDecode.Proofs.Number.Value
import FaceDecode.Proofs.Storage.Paths
import Mathlib.Data.List.Sigma

namespace FaceDecode

namespace Setting

abbrev Value : Setting → Type
  | scoreThreshold | overlapThreshold => Float32
  | inputWidth | inputHeight | sensorWidth | sensorHeight | offsetAcross | offsetDown => UInt32
  | exposure => Bool

def read? : (s : Setting) → String → Option s.Value
  | scoreThreshold | overlapThreshold => Read.single?
  | inputWidth | inputHeight | sensorWidth | sensorHeight | offsetAcross | offsetDown => Read.word?
  | exposure => DetectorDraft.switch?

/-- The values that a detector can work with: thresholds are numbers from zero to one, and no size
is zero. -/
def Allows : (s : Setting) → s.Value → Prop
  | scoreThreshold, v | overlapThreshold, v => ∃ q, Number.value? v = some q ∧ 0 ≤ q ∧ q ≤ 1
  | inputWidth, n | inputHeight, n | sensorWidth, n | sensorHeight, n => n ≠ 0
  | offsetAcross, _ | offsetDown, _ | exposure, _ => True

def checked : List Setting :=
  [scoreThreshold, overlapThreshold, inputWidth, inputHeight, sensorWidth, sensorHeight]

def thresholdFault? (s : Setting) (v : Float32) : Option SettingsError :=
  if DetectorDraft.inUnit v then none else some (.outsideUnit s v)

def sizeFault? (s : Setting) (n : UInt32) : Option SettingsError :=
  if n = 0 then some (.zero s) else none

def fault? : (s : Setting) → s.Value → Option SettingsError
  | scoreThreshold => thresholdFault? scoreThreshold
  | overlapThreshold => thresholdFault? overlapThreshold
  | inputWidth => sizeFault? inputWidth
  | inputHeight => sizeFault? inputHeight
  | sensorWidth => sizeFault? sensorWidth
  | sensorHeight => sizeFault? sensorHeight
  | offsetAcross | offsetDown | exposure => fun _ ↦ none

end Setting

theorem Locator.pairs_eq (l : Locator) : l.pairs =
    ((((l.query.getD "").toList.splitOn '&').map String.ofList).filter (· ≠ "")).map pair := by
  rw [← Path.splitOn_singleton]
  rfl

abbrev Assignment := Σ s : Setting, s.Value

/-- What a parameter of a locator assigns, if it is known and its text is a value for it. -/
def Assignment.ofPair? (pair : String × String) : Option Assignment :=
  (Setting.ofKey? pair.1).bind fun s ↦ (s.read? pair.2).map fun v ↦ ⟨s, v⟩

namespace DetectorDraft

def get (d : DetectorDraft) : (s : Setting) → s.Value
  | .scoreThreshold => d.detect.scoreThreshold
  | .overlapThreshold => d.detect.overlapThreshold
  | .inputWidth => d.detect.width
  | .inputHeight => d.detect.height
  | .sensorWidth => d.exposure.horizontal.sensor
  | .sensorHeight => d.exposure.vertical.sensor
  | .offsetAcross => d.exposure.horizontal.offset
  | .offsetDown => d.exposure.vertical.offset
  | .exposure => d.exposure.enabled

def put (d : DetectorDraft) : Assignment → DetectorDraft
  | ⟨.scoreThreshold, v⟩ => { d with detect.scoreThreshold := v }
  | ⟨.overlapThreshold, v⟩ => { d with detect.overlapThreshold := v }
  | ⟨.inputWidth, n⟩ => { d with detect.width := n }
  | ⟨.inputHeight, n⟩ => { d with detect.height := n }
  | ⟨.sensorWidth, n⟩ => { d with exposure.horizontal.sensor := n }
  | ⟨.sensorHeight, n⟩ => { d with exposure.vertical.sensor := n }
  | ⟨.offsetAcross, n⟩ => { d with exposure.horizontal.offset := n }
  | ⟨.offsetDown, n⟩ => { d with exposure.vertical.offset := n }
  | ⟨.exposure, b⟩ => { d with exposure.enabled := b }

def Change.assignments : Change → List Assignment
  | .scoreThreshold v => [⟨.scoreThreshold, v⟩]
  | .overlapThreshold v => [⟨.overlapThreshold, v⟩]
  | .inputSize width height => [⟨.inputWidth, width⟩, ⟨.inputHeight, height⟩]
  | .sensorSize width height => [⟨.sensorWidth, width⟩, ⟨.sensorHeight, height⟩]
  | .sensorOffset across down => [⟨.offsetAcross, across⟩, ⟨.offsetDown, down⟩]
  | .exposure enabled => [⟨.exposure, enabled⟩]

/-- What was assigned to a setting last, or else the value it has by default. -/
def lastOf (as : List Assignment) (s : Setting) : s.Value :=
  (as.reverse.dlookup s).getD (get {} s)

variable (d : DetectorDraft)

theorem get_put_self (s : Setting) (v : s.Value) : (d.put ⟨s, v⟩).get s = v := by
  cases s <;> rfl

theorem get_put_of_ne {s t : Setting} (h : s ≠ t) (v : t.Value) :
    (d.put ⟨t, v⟩).get s = d.get s := by
  cases s <;> cases t <;> first | rfl | exact absurd rfl h

theorem change_eq (c : Change) : d.change c = c.assignments.foldl put d := by
  cases c <;> rfl

theorem set?_eq (s : Setting) (text : String) :
    d.set? s text = (s.read? text).map fun v ↦ d.put ⟨s, v⟩ := by
  cases s <;> exact Option.map_eq_bind.symm

theorem get_foldl_put (as : List Assignment) (s : Setting) :
    (as.foldl put {}).get s = lastOf as s := by
  induction as using List.reverseRecOn with
  | nil => rfl
  | append_singleton as a ih =>
    obtain ⟨t, v⟩ := a
    rw [List.foldl_append, List.foldl_cons, List.foldl_nil, lastOf, List.reverse_concat]
    by_cases same : s = t
    · subst same
      rw [get_put_self, List.dlookup_cons_eq, Option.getD_some]
    · rw [get_put_of_ne _ same, List.dlookup_cons_ne _ _ same, ih, lastOf]

theorem foldl_change (changes : List Change) :
    changes.foldl change d = (changes.flatMap Change.assignments).foldl put d := by
  rw [List.foldl_flatMap]
  congr 1
  funext d c
  exact d.change_eq c

theorem eq_of_take {pair : String × String} {d d' : DetectorDraft} {log log' : Log}
    (h : (d.take pair).run.run log = (.ok d', log')) :
    d' = (Assignment.ofPair? pair).toList.foldl put d := by
  unfold take at h
  unfold Assignment.ofPair?
  split at h
  case h_1 unknown =>
    rw [unknown]
    cases h
    rfl
  case h_2 s known =>
    rw [known, Option.bind_some]
    rw [set?_eq] at h
    cases read : s.read? pair.2 <;> rw [read] at h <;> cases h
    rfl

theorem eq_of_foldlM_take {pairs : List (String × String)} {d d' : DetectorDraft} {log log' : Log}
    (h : (pairs.foldlM take d).run.run log = (.ok d', log')) :
    d' = (pairs.filterMap Assignment.ofPair?).foldl put d := by
  induction pairs generalizing d log with
  | nil =>
    cases h
    rfl
  | cons pair pairs ih =>
    rw [List.foldlM_cons] at h
    cases first : (d.take pair).run.run log with
    | mk r log =>
      cases r with
      | error e =>
        rw [run_bind_error first] at h
        cases h
      | ok next =>
        rw [run_bind_ok first] at h
        rw [ih h, eq_of_take first]
        cases found : Assignment.ofPair? pair with
        | none => rw [List.filterMap_cons_none found]; rfl
        | some a => rw [List.filterMap_cons_some found]; rfl

theorem eq_of_ofLocator {l : Locator} {log log' : Log}
    (h : (ofLocator l).run.run log = (.ok d, log')) :
    d = (l.pairs.filterMap Assignment.ofPair?).foldl put {} := by
  unfold ofLocator at h
  split at h
  case isTrue => exact eq_of_foldlM_take h
  case isFalse => cases h

theorem inUnit_iff (v : Float32) :
    inUnit v = true ↔ ∃ q, Number.value? v = some q ∧ 0 ≤ q ∧ q ≤ 1 := by
  have zero : Number.value? 0 = some 0 := by decide +kernel
  have one : Number.value? 1 = some 1 := by decide +kernel
  rw [inUnit, Bool.and_eq_true, decide_eq_true_iff, decide_eq_true_iff]
  constructor
  · intro ⟨low, high⟩
    obtain ⟨q, hq⟩ := Number.exists_value?_of_le_of_le zero one low high
    exact ⟨q, hq, (Number.le_iff_value zero hq).1 low, (Number.le_iff_value hq one).1 high⟩
  · intro ⟨q, hq, low, high⟩
    exact ⟨(Number.le_iff_value zero hq).2 low, (Number.le_iff_value hq one).2 high⟩

theorem fault?_eq : d.fault? = Setting.checked.findSome? fun s ↦ s.fault? (d.get s) := by
  have threshold : (d.thresholds.find? fun p ↦ !inUnit p.2).map (fun p ↦ .outsideUnit p.1 p.2) =
      d.thresholds.findSome? fun p ↦ p.1.thresholdFault? p.2 := by
    rw [List.find?_eq_findSome?_guard, List.map_findSome?]
    congr 1
    funext p
    cases inside : inUnit p.2 <;> simp [Setting.thresholdFault?, inside]
  have size : (d.sizes.find? fun p ↦ p.2 == 0).map (fun p ↦ .zero p.1) =
      d.sizes.findSome? fun p ↦ p.1.sizeFault? p.2 := by
    rw [List.find?_eq_findSome?_guard, List.map_findSome?]
    congr 1
    funext p
    by_cases zero : p.2 = 0 <;> simp [Setting.sizeFault?, zero]
  have order : Setting.checked = [.scoreThreshold, .overlapThreshold] ++
      [.inputWidth, .inputHeight, .sensorWidth, .sensorHeight] := rfl
  rw [fault?, order, List.findSome?_append]
  change _ = (d.thresholds.findSome? fun p ↦ p.1.thresholdFault? p.2).or
    (d.sizes.findSome? fun p ↦ p.1.sizeFault? p.2)
  rw [← threshold, ← size]
  cases d.thresholds.find? fun p ↦ !inUnit p.2 <;> rfl

end DetectorDraft

namespace Setting

theorem fault?_eq_none_iff (s : Setting) (v : s.Value) : s.fault? v = none ↔ s.Allows v := by
  cases s <;> simp [fault?, thresholdFault?, sizeFault?, Allows, DetectorDraft.inUnit_iff]

theorem message_of_fault? {s : Setting} {v : s.Value} {e : SettingsError} (h : s.fault? v = some e) :
    ∃ rest, e.message = "配置无效: " ++ s.key ++ rest := by
  have threshold (v : Float32) (h : s.thresholdFault? v = some e) :
      e.message = "配置无效: " ++ s.key ++ (" 必须在 [0, 1] 范围内, 实际为 " ++ Number.text v) := by
    unfold thresholdFault? at h
    split at h <;> cases h
    exact String.append_assoc
  have size (n : UInt32) (h : s.sizeFault? n = some e) :
      e.message = "配置无效: " ++ s.key ++ " 不能为 0" := by
    unfold sizeFault? at h
    split at h <;> cases h
    rfl
  cases s
  case scoreThreshold | overlapThreshold => exact ⟨_, threshold v h⟩
  case offsetAcross | offsetDown | exposure => cases h
  all_goals exact ⟨_, size v h⟩

theorem allows_of_notMem_checked {s : Setting} (h : s ∉ checked) (v : s.Value) : s.Allows v := by
  cases s
  case offsetAcross | offsetDown | exposure => trivial
  all_goals simp [checked] at h

end Setting

theorem DetectorDraft.fault?_eq_none_iff_allows (d : DetectorDraft) :
    d.fault? = none ↔ ∀ s : Setting, s.Allows (d.get s) := by
  rw [fault?_eq, List.findSome?_eq_none_iff]
  simp only [Setting.fault?_eq_none_iff]
  constructor
  · intro sound s
    by_cases there : s ∈ Setting.checked
    · exact sound s there
    · exact Setting.allows_of_notMem_checked there _
  · intro sound s _
    exact sound s

/-- A draft that nothing has been changed in yet, and what has been assigned to make it. -/
inductive Started : DetectorDraft → List Assignment → Prop
  | default : Started {} []
  | accepted {l : Locator} {d : DetectorDraft} {log log' : Log}
      (read : (DetectorDraft.ofLocator l).run.run log = (.ok d, log')) :
      Started d (l.pairs.filterMap Assignment.ofPair?)

variable {start draft : DetectorDraft} {given : List Assignment}

theorem Started.eq_foldl (h : Started start given) : start = given.foldl DetectorDraft.put {} := by
  cases h with
  | default => rfl
  | accepted read => exact DetectorDraft.eq_of_ofLocator _ read

namespace Detector

theorem run_build_of_fault {e : SettingsError} (faulty : draft.fault? = some e) (log : Log) :
    (build draft).run.run log = (.error e, log) := by
  unfold build
  split
  case h_1 e' faulty' =>
    rw [faulty] at faulty'
    cases faulty'
    rfl
  case h_2 sound =>
    rw [faulty] at sound
    cases sound

theorem get_of_build {d : Detector} {log log' : Log}
    (built : (build draft).run.run log = (.ok d, log')) (s : Setting) :
    (DetectorDraft.mk d.detect d.exposure).get s = draft.get s := by
  obtain rfl := draft_of_build built
  cases s <;> rfl

/-- A detector is built just where each setting allows what was assigned to it last. Otherwise the
error names the first setting, in the order of the checks, that does not. The detector works with the
assigned values, and its exposure refers to a picture of the size that it detects in. -/
theorem build_settings (started : Started start given) (changes : List DetectorDraft.Change)
    (log : Log) :
    let draft := changes.foldl DetectorDraft.change start
    let last := DetectorDraft.lastOf (given ++ changes.flatMap DetectorDraft.Change.assignments)
    ((∃ d log', (build draft).run.run log = (.ok d, log')) ↔ ∀ s : Setting, s.Allows (last s)) ∧
    ((¬ ∀ s : Setting, s.Allows (last s)) → ∃ e, ∃ s : Setting, ∃ before after reason,
      (build draft).run.run log = (.error e, log) ∧
      Setting.checked = before ++ s :: after ∧ (∀ t ∈ before, t.Allows (last t)) ∧
      ¬ s.Allows (last s) ∧ s.fault? (last s) = some e ∧ e.message = "配置无效: " ++ s.key ++ reason) ∧
    ∀ d log', (build draft).run.run log = (.ok d, log') →
      (∀ s, (DetectorDraft.mk d.detect d.exposure).get s = last s) ∧
      d.exposure.horizontal.model = d.detect.width ∧
      d.exposure.vertical.model = d.detect.height := by
  intro draft last
  have held (s : Setting) : draft.get s = last s := by
    rw [show draft = _ from DetectorDraft.foldl_change start changes, started.eq_foldl,
      ← List.foldl_append, DetectorDraft.get_foldl_put]
  have sound_iff := draft.fault?_eq_none_iff_allows
  simp only [held] at sound_iff
  refine ⟨⟨?_, ?_⟩, ?_, ?_⟩
  · intro ⟨d, log', built⟩
    rw [← sound_iff, ← draft_of_build built]
    exact d.fault_eq_none
  · intro allowed
    exact ⟨_, _, run_build (sound_iff.2 allowed) log⟩
  · intro refused
    obtain ⟨e, faulty⟩ := Option.ne_none_iff_exists'.1 (mt sound_iff.1 refused)
    have first := draft.fault?_eq.symm.trans faulty
    obtain ⟨before, s, after, order, fault, sound⟩ := List.findSome?_eq_some_iff.1 first
    simp only [held, Setting.fault?_eq_none_iff] at fault sound
    obtain ⟨reason, message⟩ := Setting.message_of_fault? fault
    refine ⟨e, s, before, after, reason, run_build_of_fault faulty log, order, sound, ?_, fault,
      message⟩
    rw [← Setting.fault?_eq_none_iff, fault]
    exact Option.some_ne_none e
  · intro d log' built
    refine ⟨?_, rfl, rfl⟩
    intro s
    rw [get_of_build built, held]

theorem build_settings_replaced_height :
    ∃ start given, Started start given ∧ given = [⟨.scoreThreshold, -0.0⟩, ⟨.inputHeight, 0⟩] ∧
      ∃ d log', (build (([.inputSize 640 480, .sensorSize 1280 960] : List _).foldl
          DetectorDraft.change start)).run.run #[] = (.ok d, log') ∧
        d.detect.height = 480 ∧ d.exposure.vertical.model = 480 ∧
        d.exposure.vertical.sensor = 960 := by
  let l : Locator := {
    scheme := "retinaface", authority := some "", path := "/"
    query := some "obj_threshold=-0&input_height=0", fragment := none }
  have pairs : l.pairs = [("obj_threshold", "-0"), ("input_height", "0")] := by
    rw [l.pairs_eq]
    decide +kernel
  have read : (DetectorDraft.ofLocator l).run.run #[] =
      (.ok { detect := { scoreThreshold := -0.0, height := 0 } }, #[]) := by
    rw [DetectorDraft.ofLocator, pairs]
    rfl
  have started := Started.accepted read
  have given : l.pairs.filterMap Assignment.ofPair? =
      [⟨.scoreThreshold, -0.0⟩, ⟨.inputHeight, 0⟩] := by
    rw [pairs]
    rfl
  rw [given] at started
  obtain ⟨built, -, works⟩ :=
    build_settings started [.inputSize 640 480, .sensorSize 1280 960] #[]
  obtain ⟨d, log', ran⟩ := built.2 (by
    intro s
    rw [← Setting.fault?_eq_none_iff]
    cases s <;> rfl)
  obtain ⟨holds, -, model⟩ := works d log' ran
  have height : d.detect.height = 480 := holds .inputHeight
  exact ⟨_, _, started, rfl, d, log', ran, height, model.trans height, holds .sensorHeight⟩

end Detector

end FaceDecode
