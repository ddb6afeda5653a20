import FaceDecode.Proofs.Detector.Settings

namespace FaceDecode

theorem Setting.ofKey?_eq_some_iff {key : String} {s : Setting} :
    ofKey? key = some s ↔ s.key = key := by
  constructor
  · intro h
    simpa using List.find?_some h
  · rintro rfl
    cases s <;> rfl

namespace DetectorDraft

variable {p : String × String} {ps ps' : List (String × String)}

def Known (p : String × String) : Prop := ∃ s : Setting, s.key = p.1

/-- A known parameter whose text is no value for its setting. -/
def Faulty (p : String × String) : Prop := ∃ s : Setting, s.key = p.1 ∧ s.read? p.2 = none

theorem isSome_ofKey?_iff : (Setting.ofKey? p.1).isSome ↔ Known p := by
  simp only [Option.isSome_iff_exists, Setting.ofKey?_eq_some_iff, Known]

instance (p : String × String) : Decidable (Known p) := decidable_of_iff _ isSome_ofKey?_iff

def warning (p : String × String) : Line := ⟨.warn, s!"忽略未知的模型参数: {p.1}={p.2}"⟩

def warnings (ps : List (String × String)) : Log := ((ps.filter (¬ Known ·)).map warning).toArray

theorem ofPair?_eq_some_iff {s : Setting} {v : s.Value} :
    Assignment.ofPair? p = some ⟨s, v⟩ ↔ s.key = p.1 ∧ s.read? p.2 = some v := by
  simp only [Assignment.ofPair?, Option.bind_eq_some_iff, Option.map_eq_some_iff,
    Setting.ofKey?_eq_some_iff]
  constructor
  · rintro ⟨t, key, w, read, same⟩
    cases same
    exact ⟨key, read⟩
  · rintro ⟨key, read⟩
    exact ⟨s, key, v, read, rfl⟩

theorem run_take (sound : ¬ Faulty p) (d : DetectorDraft) (log : Log) :
    (d.take p).run.run log =
      (.ok (([p].filterMap Assignment.ofPair?).foldl put d), log ++ warnings [p]) := by
  by_cases known : Known p
  · obtain ⟨s, key⟩ := known
    obtain ⟨v, read⟩ : ∃ v, s.read? p.2 = some v :=
      Option.ne_none_iff_exists'.1 fun none ↦ sound ⟨s, key, none⟩
    rw [take, Setting.ofKey?_eq_some_iff.2 key, warnings,
      List.filter_cons_of_neg (by simpa using ⟨s, key⟩),
      List.filterMap_cons_some (ofPair?_eq_some_iff.2 ⟨key, read⟩)]
    simp only [set?_eq, read, Option.map_some]
    exact congrArg (Prod.mk _) Array.append_empty.symm
  · have unread : Setting.ofKey? p.1 = none := by
      rwa [← isSome_ofKey?_iff, Option.not_isSome_iff_eq_none] at known
    rw [take, unread, warnings, List.filter_cons_of_pos (by simpa),
      List.filterMap_cons_none (by rw [Assignment.ofPair?, unread]; rfl)]
    rfl

theorem run_take_of_faulty (faulty : Faulty p) :
    ∃ e : SettingsError, e.message = "配置无效: 参数 " ++ p.1 ++ " 的值无效: " ++ p.2 ∧
      ∀ (d : DetectorDraft) (log : Log), (d.take p).run.run log = (.error e, log) := by
  obtain ⟨s, key, read⟩ := faulty
  refine ⟨.badValue s p.2, ?_, fun d log ↦ ?_⟩
  · rw [← key]
    rfl
  · rw [take, Setting.ofKey?_eq_some_iff.2 key]
    simp only [set?_eq, read]
    rfl

theorem warnings_append (ps ps' : List (String × String)) :
    warnings (ps ++ ps') = warnings ps ++ warnings ps' := by
  simp [warnings]

theorem run_foldlM_take (sound : ∀ p ∈ ps, ¬ Faulty p) (d : DetectorDraft) (log : Log) :
    (ps.foldlM take d).run.run log =
      (.ok ((ps.filterMap Assignment.ofPair?).foldl put d), log ++ warnings ps) := by
  induction ps generalizing d log with
  | nil => exact congrArg (Prod.mk _) Array.append_empty.symm
  | cons p ps ih =>
    obtain ⟨first, others⟩ := List.forall_mem_cons.1 sound
    have split : p :: ps = [p] ++ ps := rfl
    rw [List.foldlM_cons, run_bind_ok (run_take first d log), ih others, split,
      List.filterMap_append, List.foldl_append, warnings_append, Array.append_assoc]

/-- Whether a setting has the value of the last parameter of its name, or its default if there is
none. -/
def HoldsLast (ps : List (String × String)) (d : DetectorDraft) (s : Setting) : Prop :=
  match (ps.filter (·.1 = s.key)).getLast? with
  | none => d.get s = get {} s
  | some p => s.read? p.2 = some (d.get s)

theorem HoldsLast.of_eq {d d' : DetectorDraft} {s : Setting} (h : HoldsLast ps d s)
    (same : ps'.filter (·.1 = s.key) = ps.filter (·.1 = s.key)) (kept : d'.get s = d.get s) :
    HoldsLast ps' d' s := by
  unfold HoldsLast at h ⊢
  rw [same, kept]
  exact h

theorem HoldsLast.get_eq {d d' : DetectorDraft} {s : Setting} (h : HoldsLast ps d s)
    (h' : HoldsLast ps d' s) : d.get s = d'.get s := by
  unfold HoldsLast at h h'
  cases last : (ps.filter (·.1 = s.key)).getLast? with
  | none =>
    rw [last] at h h'
    exact h.trans h'.symm
  | some p =>
    rw [last] at h h'
    exact Option.some.inj (h.symm.trans h')

/-- Whether a value is what the last parameter of a name says, or a default if there is none. -/
def LastSays {α : Type} (ps : List (String × String)) (key : String) (read? : String → Option α)
    (default value : α) : Prop :=
  (ps.filter (·.1 = key)).getLast?.elim (value = default) fun p ↦ read? p.2 = some value

def switches (text : String) : Option Bool :=
  if text = "1" ∨ text = "true" then some true
  else if text = "0" ∨ text = "false" then some false else none

/-- Whether each field of a draft holds what the last parameter of its name says, or its default. -/
structure Says (ps : List (String × String)) (d : DetectorDraft) : Prop where
  scoreThreshold : LastSays ps "obj_threshold" Read.single? 0.6 d.detect.scoreThreshold
  overlapThreshold : LastSays ps "nms_threshold" Read.single? 0.5 d.detect.overlapThreshold
  width : LastSays ps "input_width" Read.word? 1280 d.detect.width
  height : LastSays ps "input_height" Read.word? 720 d.detect.height
  sensorWidth : LastSays ps "sensor_width" Read.word? 1920 d.exposure.horizontal.sensor
  sensorHeight : LastSays ps "sensor_height" Read.word? 1080 d.exposure.vertical.sensor
  offsetAcross : LastSays ps "offset_h" Read.word? 0 d.exposure.horizontal.offset
  offsetDown : LastSays ps "offset_v" Read.word? 0 d.exposure.vertical.offset
  enabled : LastSays ps "ae_roi" switches true d.exposure.enabled

theorem switch?_eq : switch? = switches := by
  funext text
  unfold switch? switches
  split <;> simp_all

theorem HoldsLast.lastSays {d : DetectorDraft} {s : Setting} (h : HoldsLast ps d s) :
    LastSays ps s.key s.read? (get {} s) (d.get s) := by
  unfold HoldsLast at h
  unfold LastSays
  cases last : (ps.filter (·.1 = s.key)).getLast? with
  | none =>
    rw [last] at h
    exact h
  | some p =>
    rw [last] at h
    exact h

theorem fields_of_holdsLast {d : DetectorDraft} (h : ∀ s, HoldsLast ps d s) : Says ps d where
  scoreThreshold := (h .scoreThreshold).lastSays
  overlapThreshold := (h .overlapThreshold).lastSays
  width := (h .inputWidth).lastSays
  height := (h .inputHeight).lastSays
  sensorWidth := (h .sensorWidth).lastSays
  sensorHeight := (h .sensorHeight).lastSays
  offsetAcross := (h .offsetAcross).lastSays
  offsetDown := (h .offsetDown).lastSays
  enabled := switch?_eq ▸ (h .exposure).lastSays

theorem known_iff : Known p ↔ p.1 ∈ ["obj_threshold", "nms_threshold", "input_width", "input_height",
    "sensor_width", "sensor_height", "offset_h", "offset_v", "ae_roi"] := by
  constructor
  · rintro ⟨s, key⟩
    rw [← key]
    cases s <;> decide
  · intro h
    have listed : p.1 ∈ Setting.all.map Setting.key := h
    obtain ⟨s, -, key⟩ := List.mem_map.1 listed
    exact ⟨s, key⟩

theorem switches_eq_none_iff {text : String} :
    switches text = none ↔ text ∉ ["1", "true", "0", "false"] := by
  unfold switches
  split
  case isTrue on => rcases on with rfl | rfl <;> simp
  case isFalse on =>
    split
    case isTrue off => rcases off with rfl | rfl <;> simp
    case isFalse off => simp_all

theorem faulty_of_listed {settings : List Setting} (listed : p.1 ∈ settings.map Setting.key)
    (unread : ∀ s ∈ settings, s.read? p.2 = none) : Faulty p := by
  obtain ⟨s, there, key⟩ := List.mem_map.1 listed
  exact ⟨s, key, unread s there⟩

theorem faulty_iff : Faulty p ↔
    p.1 ∈ ["obj_threshold", "nms_threshold"] ∧ Read.single? p.2 = none ∨
    p.1 ∈ ["input_width", "input_height", "sensor_width", "sensor_height", "offset_h", "offset_v"] ∧
      Read.word? p.2 = none ∨
    p.1 = "ae_roi" ∧ p.2 ∉ ["1", "true", "0", "false"] := by
  rw [← switches_eq_none_iff, ← switch?_eq]
  constructor
  · rintro ⟨s, key, unread⟩
    rw [← key]
    cases s with
    | scoreThreshold | overlapThreshold => exact .inl ⟨by decide, unread⟩
    | exposure => exact .inr (.inr ⟨rfl, unread⟩)
    | _ => exact .inr (.inl ⟨by decide, unread⟩)
  · rintro (⟨named, unread⟩ | ⟨named, unread⟩ | ⟨named, unread⟩)
    · have listed : p.1 ∈ [Setting.scoreThreshold, .overlapThreshold].map Setting.key := named
      refine faulty_of_listed listed ?_
      simp only [List.forall_mem_cons]
      exact ⟨unread, unread, List.forall_mem_nil _⟩
    · have listed : p.1 ∈ [Setting.inputWidth, .inputHeight, .sensorWidth, .sensorHeight,
        .offsetAcross, .offsetDown].map Setting.key := named
      refine faulty_of_listed listed ?_
      simp only [List.forall_mem_cons]
      exact ⟨unread, unread, unread, unread, unread, unread, List.forall_mem_nil _⟩
    · exact ⟨.exposure, named.symm, unread⟩

theorem holdsLast_of_sound (sound : ∀ p ∈ ps, ¬ Faulty p) (s : Setting) :
    HoldsLast ps ((ps.filterMap Assignment.ofPair?).foldl put {}) s := by
  -- From the back, since the last parameter of a name decides.
  induction ps using List.reverseRecOn with
  | nil => exact rfl
  | append_singleton ps p ih =>
    have before := ih fun q hq ↦ sound q (List.mem_append_left _ hq)
    rw [List.filterMap_append, List.foldl_append]
    by_cases named : p.1 = s.key
    · have last : (ps ++ [p]).filter (·.1 = s.key) = ps.filter (·.1 = s.key) ++ [p] := by
        rw [List.filter_append, List.filter_cons_of_pos (by simpa), List.filter_nil]
      obtain ⟨v, read⟩ : ∃ v, s.read? p.2 = some v :=
        Option.ne_none_iff_exists'.1 fun none ↦ sound p (by simp) ⟨s, named.symm, none⟩
      rw [HoldsLast, last, List.getLast?_concat,
        List.filterMap_cons_some (ofPair?_eq_some_iff.2 ⟨named.symm, read⟩)]
      exact read.trans (congrArg some (get_put_self _ s v).symm)
    · have others : (ps ++ [p]).filter (·.1 = s.key) = ps.filter (·.1 = s.key) := by
        rw [List.filter_append, List.filter_cons_of_neg (by simpa), List.filter_nil, List.append_nil]
      refine before.of_eq others ?_
      cases found : Assignment.ofPair? p with
      | none => rw [List.filterMap_cons_none found]; rfl
      | some a =>
        obtain ⟨t, v⟩ := a
        obtain ⟨key, -⟩ := ofPair?_eq_some_iff.1 found
        rw [List.filterMap_cons_some found]
        refine get_put_of_ne _ ?_ v
        rintro rfl
        exact named key.symm

/-- No parameter sets the size of the picture that the exposure refers to. -/
theorem models_foldl_put (as : List Assignment) (d : DetectorDraft) :
    (as.foldl put d).exposure.horizontal.model = d.exposure.horizontal.model ∧
      (as.foldl put d).exposure.vertical.model = d.exposure.vertical.model := by
  induction as generalizing d with
  | nil => exact ⟨rfl, rfl⟩
  | cons a as ih =>
    obtain ⟨across, down⟩ := ih (d.put a)
    obtain ⟨s, v⟩ := a
    cases s <;> exact ⟨across, down⟩

theorem eq_of_get {d d' : DetectorDraft} (same : ∀ s, d.get s = d'.get s)
    (across : d.exposure.horizontal.model = d'.exposure.horizontal.model)
    (down : d.exposure.vertical.model = d'.exposure.vertical.model) : d = d' := by
  obtain ⟨⟨score, overlap, width, height⟩, ⟨_, sensorWidth, offsetAcross⟩,
    ⟨_, sensorHeight, offsetDown⟩, enabled⟩ := d
  obtain rfl : score = _ := same .scoreThreshold
  obtain rfl : overlap = _ := same .overlapThreshold
  obtain rfl : width = _ := same .inputWidth
  obtain rfl : height = _ := same .inputHeight
  obtain rfl : sensorWidth = _ := same .sensorWidth
  obtain rfl : sensorHeight = _ := same .sensorHeight
  obtain rfl : offsetAcross = _ := same .offsetAcross
  obtain rfl : offsetDown = _ := same .offsetDown
  obtain rfl : enabled = _ := same .exposure
  obtain rfl := across
  obtain rfl := down
  rfl

/-- Parameters fail with the first faulty one, with what was warned of before it; if none is faulty,
they give the draft of their assignments and all warnings. -/
theorem run_ofPairs (ps : List (String × String)) (log : Log) :
    (∃ before p after, ∃ e : SettingsError, ps = before ++ p :: after ∧
      (∀ q ∈ before, ¬ Faulty q) ∧ Faulty p ∧
      e.message = "配置无效: 参数 " ++ p.1 ++ " 的值无效: " ++ p.2 ∧
      (ofPairs ps).run.run log = (.error e, log ++ warnings before)) ∨
    (∀ p ∈ ps, ¬ Faulty p) ∧ (ofPairs ps).run.run log =
      (.ok ((ps.filterMap Assignment.ofPair?).foldl put {}), log ++ warnings ps) := by
  classical
  cases first : ps.find? (Faulty ·) with
  | none =>
    have sound : ∀ p ∈ ps, ¬ Faulty p := by simpa using first
    exact .inr ⟨sound, run_foldlM_take sound {} log⟩
  | some p =>
    obtain ⟨faulty, before, after, rfl, skipped⟩ := List.find?_eq_some_iff_append.1 first
    have faulty : Faulty p := by simpa using faulty
    have sound : ∀ q ∈ before, ¬ Faulty q := by simpa using skipped
    obtain ⟨e, message, failed⟩ := run_take_of_faulty faulty
    refine .inl ⟨before, p, after, e, rfl, sound, faulty, message, ?_⟩
    rw [ofPairs, List.foldlM_append, run_bind_ok (run_foldlM_take sound {} log), List.foldlM_cons]
    exact run_bind_error (failed _ _)

theorem run_ofPairs_reordered (same : ∀ key, ps'.filter (·.1 = key) = ps.filter (·.1 = key))
    {d : DetectorDraft} {log log' : Log} (h : (ofPairs ps).run.run log = (.ok d, log')) :
    ∃ log', (ofPairs ps').run.run log = (.ok d, log') := by
  have there (p) (hp : p ∈ ps') : p ∈ ps := by
    have named : p ∈ ps'.filter (·.1 = p.1) := List.mem_filter.2 ⟨hp, by simp⟩
    rw [same] at named
    exact (List.mem_filter.1 named).1
  rcases run_ofPairs ps log with ⟨before, p, after, e, -, -, -, -, failed⟩ | ⟨sound, ran⟩
  · rw [failed] at h
    cases h
  · rw [ran] at h
    cases h
    have sound' (p) (hp : p ∈ ps') : ¬ Faulty p := sound p (there p hp)
    obtain ⟨across, down⟩ := models_foldl_put (ps.filterMap Assignment.ofPair?) {}
    obtain ⟨across', down'⟩ := models_foldl_put (ps'.filterMap Assignment.ofPair?) {}
    have equal := eq_of_get (fun s ↦ ((holdsLast_of_sound sound' s).of_eq (same s.key).symm rfl).get_eq
      (holdsLast_of_sound sound s)) (across'.trans across.symm) (down'.trans down.symm)
    rw [← equal]
    exact ⟨_, run_foldlM_take sound' {} log⟩

/-- Reading a locator of a detector fails just where a known parameter has no value, and then names the
first such parameter. Otherwise each setting holds what its last parameter says, or its default, and
each unknown parameter leaves one warning and nothing else. Parameters of different names may change
places. -/
theorem ofLocator_reads {l : Locator} (own : l.scheme = detectorScheme) (log : Log) :
    (∀ p, Known p ↔ p.1 ∈ ["obj_threshold", "nms_threshold", "input_width", "input_height",
      "sensor_width", "sensor_height", "offset_h", "offset_v", "ae_roi"]) ∧
    (∀ p, Faulty p ↔
      p.1 ∈ ["obj_threshold", "nms_threshold"] ∧ Read.single? p.2 = none ∨
      p.1 ∈ ["input_width", "input_height", "sensor_width", "sensor_height", "offset_h", "offset_v"] ∧
        Read.word? p.2 = none ∨
      p.1 = "ae_roi" ∧ p.2 ∉ ["1", "true", "0", "false"]) ∧
    ((∃ e log', (ofLocator l).run.run log = (.error e, log')) ↔ ∃ p ∈ l.pairs, Faulty p) ∧
    (∀ e log', (ofLocator l).run.run log = (.error e, log') →
      ∃ before p after, l.pairs = before ++ p :: after ∧ (∀ q ∈ before, ¬ Faulty q) ∧ Faulty p ∧
        e.message = "配置无效: 参数 " ++ p.1 ++ " 的值无效: " ++ p.2 ∧ log' = log ++ warnings before) ∧
    (∀ d log', (ofLocator l).run.run log = (.ok d, log') →
      log' = log ++ warnings l.pairs ∧ (∀ s, HoldsLast l.pairs d s) ∧ Says l.pairs d ∧
      d.exposure.horizontal.model = 1280 ∧ d.exposure.vertical.model = 720) ∧
    ∀ l' : Locator, l'.scheme = detectorScheme →
      (∀ key, l'.pairs.filter (·.1 = key) = l.pairs.filter (·.1 = key)) →
      ∀ d, (∃ log', (ofLocator l').run.run log = (.ok d, log')) ↔
        ∃ log', (ofLocator l).run.run log = (.ok d, log') := by
  have read {l : Locator} (own : l.scheme = detectorScheme) : ofLocator l = ofPairs l.pairs :=
    if_pos own
  simp only [read own]
  have outcome := run_ofPairs l.pairs log
  refine ⟨fun _ ↦ known_iff, fun _ ↦ faulty_iff, ?_, fun e log' h ↦ ?_, fun d log' h ↦ ?_,
    fun l' own' same d ↦ ?_⟩
  · rcases outcome with ⟨before, p, after, e, split, -, faulty, -, failed⟩ | ⟨sound, ran⟩
    · exact iff_of_true ⟨e, _, failed⟩ ⟨p, by simp [split], faulty⟩
    · refine iff_of_false ?_ fun ⟨p, hp, faulty⟩ ↦ sound p hp faulty
      rintro ⟨e, log', failed⟩
      rw [ran] at failed
      cases failed
  · rcases outcome with ⟨before, p, after, e', split, sound, faulty, message, failed⟩ | ⟨-, ran⟩
    · rw [failed] at h
      cases h
      exact ⟨before, p, after, split, sound, faulty, message, rfl⟩
    · rw [ran] at h
      cases h
  · rcases outcome with ⟨before, p, after, e, -, -, -, -, failed⟩ | ⟨sound, ran⟩
    · rw [failed] at h
      cases h
    · rw [ran] at h
      cases h
      have holds := holdsLast_of_sound sound
      exact ⟨rfl, holds, fields_of_holdsLast holds, models_foldl_put _ {}⟩
  · rw [read own']
    exact ⟨fun ⟨log', h⟩ ↦ run_ofPairs_reordered (fun key ↦ (same key).symm) h,
      fun ⟨log', h⟩ ↦ run_ofPairs_reordered same h⟩

theorem ofLocator_reads_repeated_width :
    let l : Locator := {
      scheme := "retinaface", authority := some "", path := "/"
      query := some "input_width=5&size=1&input_height=7&input_width=9", fragment := none }
    let l' : Locator := { l with query := some "size=1&input_height=7&input_width=5&input_width=9" }
    let bad : Locator := { l with query := some "size=1&ae_roi=no&input_width=x" }
    l.scheme = detectorScheme ∧ l'.scheme = detectorScheme ∧ bad.scheme = detectorScheme ∧
      (∃ d, (ofLocator l).run.run #[] = (.ok d, #[⟨.warn, "忽略未知的模型参数: size=1"⟩]) ∧
        d.detect.width = 9 ∧ d.detect.height = 7 ∧
        ∃ log', (ofLocator l').run.run #[] = (.ok d, log')) ∧
      ∃ e log', (ofLocator bad).run.run #[] = (.error e, log') ∧
        e.message = "配置无效: 参数 ae_roi 的值无效: no" := by
  intro l l' bad
  have pairs : l.pairs =
      [("input_width", "5"), ("size", "1"), ("input_height", "7"), ("input_width", "9")] := by
    rw [l.pairs_eq]
    decide +kernel
  have pairs' : l'.pairs =
      [("size", "1"), ("input_height", "7"), ("input_width", "5"), ("input_width", "9")] := by
    rw [l'.pairs_eq]
    decide +kernel
  have badPairs : bad.pairs = [("size", "1"), ("ae_roi", "no"), ("input_width", "x")] := by
    rw [bad.pairs_eq]
    decide +kernel
  obtain ⟨d, log', ran⟩ : ∃ d log', (ofLocator l).run.run #[] = (.ok d, log') := by
    rw [ofLocator, pairs]
    exact ⟨_, _, rfl⟩
  obtain ⟨-, -, -, -, reads, reorder⟩ := ofLocator_reads (l := l) rfl #[]
  obtain ⟨warned, holds, -⟩ := reads d log' ran
  have width : Read.word? "9" = some d.detect.width := by
    have last := holds .inputWidth
    rw [HoldsLast, pairs] at last
    exact last
  have height : Read.word? "7" = some d.detect.height := by
    have last := holds .inputHeight
    rw [HoldsLast, pairs] at last
    exact last
  have same (key : String) : l'.pairs.filter (·.1 = key) = l.pairs.filter (·.1 = key) := by
    rw [pairs, pairs']
    by_cases size : "size" = key
    · subst size
      rfl
    · by_cases height : "input_height" = key
      · subst height
        rfl
      · simp [List.filter_cons, size, height]
  obtain ⟨-, -, fails, names, -⟩ := ofLocator_reads (l := bad) rfl #[]
  obtain ⟨e, log'', failed⟩ := fails.2 ⟨("ae_roi", "no"), by rw [badPairs]; simp, .exposure, rfl, rfl⟩
  obtain ⟨before, p, after, split, sound, faulty, message, -⟩ := names e log'' failed
  refine ⟨rfl, rfl, rfl, ⟨d, ?_, ?_, ?_, (reorder l' rfl same d).2 ⟨log', ran⟩⟩, e, log'', failed, ?_⟩
  · rw [ran, warned, pairs]
    rfl
  · exact (Option.some.inj width).symm
  · exact (Option.some.inj height).symm
  · rw [badPairs] at split
    rcases before with _ | ⟨q, _ | ⟨q', before⟩⟩
    · cases split
      have unknown : ¬ Known ("size", "1") := by rw [← isSome_ofKey?_iff]; decide
      exact absurd (faulty.imp fun _ h ↦ h.1) unknown
    · cases split
      exact message
    · obtain ⟨-, rfl, -⟩ : ("size", "1") = q ∧ ("ae_roi", "no") = q' ∧ _ := by simpa using split
      exact absurd ⟨.exposure, rfl, rfl⟩ (sound ("ae_roi", "no") (by simp))

end DetectorDraft

end FaceDecode
