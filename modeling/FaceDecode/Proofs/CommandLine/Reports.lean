import FaceDecode.CommandLine.Run
import FaceDecode.Proofs.Detector.Agreement
import FaceDecode.Proofs.Input.Loading
import FaceDecode.Proofs.Sink.LogLines
import FaceDecode.Proofs.Task.Failures

namespace FaceDecode

namespace Detector

theorem exists_quiet_report (d : Detector) {f : Frame} (same : f.cells = AnchorTable.input.cells) :
    ∃ report, Quiet (d.infer f) (.ok report) := by
  have ran := run_infer same (Detection.detect_eq same d.detect)
  by_cases on : d.exposure.enabled = true
  · simp only [if_pos on] at ran
    refine ⟨_, _, ?_, ran⟩
    simp [ExposureSettings.droppedLine, Level.isShown, Function.comp_def]
  · simp only [if_neg on] at ran
    exact ⟨_, [], rfl, fun log ↦ (ran log).trans (congrArg _ Array.append_empty.symm)⟩

theorem faces_ne_nil {d : Detector} {f : Frame} {report : Report}
    (same : f.cells = AnchorTable.input.cells) (answered : Quiet (d.infer f) (.ok report))
    {p : Frame.Place} (has : f.Has p) (pass : d.detect.scoreThreshold ≤ f.probability p) :
    report.faces ≠ [] := by
  obtain ⟨report', log', ran, found, -⟩ := d.exists_report same #[]
  obtain ⟨log'', ran', -⟩ := answered.shown_eq #[]
  rw [ran'] at ran
  cases ran
  exact Detection.detect_ne_nil same found has pass

end Detector

theorem Sink.run_writeLines {ε : Type} (lines : List Line) (session : Session) :
    (Sink.writeLines lines : Job ε Unit).run.run session =
      (.ok (), { session with log := session.log ++ lines.toArray }) := by
  induction lines generalizing session with
  | nil => exact congrArg (fun log ↦ (_, { session with log })) Array.append_empty.symm
  | cons line lines ih =>
    refine (ih { session with log := session.log.push line }).trans ?_
    simp

/-- What a run shows for a folder of its source: the report of the frame in it, or why there is none. -/
inductive Shows (d : Detector) (source : FrameFolders) (disk : Disk) (folder : String) :
    List Line → Prop
  | report {frame : Frame} {report : Report} {lines : List Line}
      (found : source.loaded disk folder = .ok frame) (answered : Quiet (d.infer frame) (.ok report))
      (told : LogSink.Tells report lines) : Shows d source disk folder lines
  | skipped {e : InputError} (failed : source.loaded disk folder = .error e) :
      Shows d source disk folder [FrameFolders.skippedLine folder e]

theorem Shows.eq_of_error {d : Detector} {source : FrameFolders} {disk : Disk} {folder : String}
    {lines : List Line} (h : Shows d source disk folder lines) {e : InputError}
    (failed : source.loaded disk folder = .error e) :
    lines = [FrameFolders.skippedLine folder e] := by
  cases h with
  | report found =>
    rw [failed] at found
    cases found
  | skipped failed' =>
    rw [failed] at failed'
    cases failed'
    rfl

theorem Shows.exists_report {d : Detector} {source : FrameFolders} {disk : Disk} {folder : String}
    {lines : List Line} (h : Shows d source disk folder lines) {frame : Frame}
    (found : source.loaded disk folder = .ok frame) :
    ∃ report, Quiet (d.infer frame) (.ok report) ∧ LogSink.Tells report lines := by
  cases h with
  | report found' answered told =>
    rw [found'] at found
    cases found
    exact ⟨_, answered, told⟩
  | skipped failed =>
    rw [failed] at found
    cases found

namespace RunState

def ToLog (s : RunState) : Prop := ∃ sink, s.sink = .log sink

/-- A run that reports to the log has come from one state to another: the disk is as it was, and these
lines have been shown. -/
structure Showed (s s' : RunState) (lines : List Line) : Prop where
  disk_eq : s'.session.disk = s.session.disk
  toLog : s'.ToLog
  shown_eq : shown s'.session.log = shown s.session.log ++ lines

theorem Showed.trans {s s' s'' : RunState} {lines lines' : List Line} (h : Showed s s' lines)
    (h' : Showed s' s'' lines') : Showed s s'' (lines ++ lines') where
  disk_eq := h'.disk_eq.trans h.disk_eq
  toLog := h'.toLog
  shown_eq := by rw [h'.shown_eq, h.shown_eq, List.append_assoc]

variable {s : RunState} {d : Detector} {source : FrameFolders}

theorem run_inform (toLog : s.ToLog) (text : String) :
    ∃ s', ((stage d).inform text).run.run s = (.ok (), s') ∧ Showed s s' [⟨.info, text⟩] :=
  ⟨{ s with session.log := s.session.log.push ⟨.info, text⟩ }, rfl, rfl, toLog, shown_push _ _ rfl⟩

theorem run_onSink (step : Sink → Job SinkError Unit × Sink) {lines : List Line} {sink : LogSink}
    (h : step s.sink = (Sink.writeLines lines, .log sink)) :
    ∃ s', (onSink step).run.run s = (.ok (), s') ∧
      Showed s s' (lines.filter (·.level.isShown)) := by
  refine ⟨⟨{ s.session with log := s.session.log ++ lines.toArray }, .log sink⟩, ?_, rfl, ⟨sink, rfl⟩,
    shown_append _ _⟩
  have ran := Sink.run_writeLines (ε := SinkError) lines s.session
  change (let (job, sink) := step s.sink
    let (r, session) := job s.session
    ((r, ⟨session, sink⟩) : Except SinkError Unit × RunState)) = _
  rw [h]
  exact congrArg (fun p : Except SinkError Unit × Session ↦ (p.1, (⟨p.2, .log sink⟩ : RunState))) ran

theorem run_render (toLog : s.ToLog) (frame : Frame) (report : Report) :
    ∃ s', ((stage d).render frame report).run.run s = (.ok (), s') ∧
      Showed s s' (LogSink.reportLines report) := by
  obtain ⟨sink, toLog⟩ := toLog
  obtain ⟨s', ran, showed⟩ := run_onSink (s := s) (Sink.render report) (by rw [toLog]; rfl)
  rw [LogSink.filter_lines] at showed
  exact ⟨s', ran, showed⟩

theorem run_conclude (toLog : s.ToLog) :
    ∃ s', (stage d).conclude.run.run s = (.ok (), s') ∧ Showed s s' [] := by
  obtain ⟨sink, toLog⟩ := toLog
  obtain ⟨s', ran, showed⟩ := run_onSink (s := s) Sink.finish (by rw [toLog]; rfl)
  rw [LogSink.filter_commandLine] at showed
  exact ⟨s', run_mapError ran _, showed⟩

theorem run_infer (toLog : s.ToLog) {frame : Frame} {report : Report}
    (answered : Quiet (d.infer frame) (.ok report)) :
    ∃ s', ((stage d).infer frame).run.run s = (.ok report, s') ∧ Showed s s' [] := by
  obtain ⟨log', ran, same⟩ := answered.shown_eq s.session.log
  refine ⟨{ s with session.log := log' }, ?_, rfl, toLog, same.trans (List.append_nil _).symm⟩
  exact congrArg (fun p : Except InferError Report × Log ↦
    (p.1, ({ s with session.log := p.2 } : RunState))) ran

theorem run_process (toLog : s.ToLog) {frame : Frame} {report : Report}
    (answered : Quiet (d.infer frame) (.ok report)) :
    ∃ s', ((stage d).process frame).run.run s = (.ok (), s') ∧
      Showed s s' (LogSink.reportLines report) := by
  obtain ⟨s₁, asked, showed⟩ := run_infer toLog answered
  obtain ⟨s₂, rendered, showed'⟩ := run_render (d := d) showed.toLog frame report
  refine ⟨s₂, ?_, showed.trans showed'⟩
  exact (run_bind_ok (run_mapError asked _)).trans (run_mapError rendered _)

def reading (source : FrameFolders) (folder : String) : StateM RunState (Option Frame) := fun s ↦
  let (frame, log) := source.loadFrame? s.session.disk folder s.session.log
  (frame, { s with session.log := log })

theorem run_reading (toLog : s.ToLog) {folder : String} {found : Option Frame} {log' : Log}
    {lines : List Line}
    (ran : (source.loadFrame? s.session.disk folder).run s.session.log = (found, log'))
    (told : shown log' = shown s.session.log ++ lines) :
    ∃ s', (reading source folder).run s = (found, s') ∧ Showed s s' lines := by
  refine ⟨{ s with session.log := log' }, ?_, rfl, toLog, told⟩
  exact congrArg (fun p : Option Frame × Log ↦
    (p.1, ({ s with session.log := p.2 } : RunState))) ran

theorem run_processAll (same : source.cells = AnchorTable.input.cells) {disk : Disk}
    (folders : List String) (done : Nat) (here : s.session.disk = disk)
    (toLog : s.ToLog) :
    ∃ s' served,
      ((stage d).processAll none done (folders.map (reading source))).run.run s =
        (.ok (done + (source.loadable disk folders).length), s') ∧
      Showed s s' served.flatten ∧ List.Forall₂ (Shows d source disk) folders served := by
  -- Each folder is read from the disk as it then is, so what is carried along is that it stays the same.
  induction folders generalizing s done with
  | nil =>
    exact ⟨s, [], rfl, ⟨rfl, toLog, (List.append_nil _).symm⟩, .nil⟩
  | cons folder folders ih =>
    cases found : source.loaded disk folder with
    | error e =>
      obtain ⟨log', skipped, told⟩ := FrameFolders.run_loadFrame?_of_error found s.session.log
      obtain ⟨s₁, read, showed⟩ := run_reading toLog (here ▸ skipped) told
      obtain ⟨s₂, served, ran, showed', each⟩ := ih done (showed.disk_eq.trans here) showed.toLog
      refine ⟨s₂, [FrameFolders.skippedLine folder e] :: served, ?_, showed.trans showed',
        .cons (.skipped found) each⟩
      rw [FrameFolders.loadable_cons_of_error found]
      exact (run_bind_ok (run_lift read)).trans ran
    | ok frame =>
      obtain ⟨report, answered⟩ :=
        d.exists_quiet_report ((FrameFolders.cells_of_loaded found).trans same)
      obtain ⟨log', given, told⟩ := FrameFolders.run_loadFrame?_of_ok found s.session.log
      obtain ⟨s₁, read, showed⟩ :=
        run_reading toLog (here ▸ given) (told.trans (List.append_nil _).symm)
      obtain ⟨s₂, processed, showed'⟩ := run_process showed.toLog answered
      obtain ⟨s₃, served, ran, showed'', each⟩ :=
        ih (done + 1) (showed'.disk_eq.trans (showed.disk_eq.trans here)) showed'.toLog
      refine ⟨s₃, LogSink.reportLines report :: served, ?_,
        showed.trans (showed'.trans showed''),
        .cons (.report found answered (LogSink.tells_reportLines report)) each⟩
      rw [FrameFolders.loadable_cons_of_ok found, List.length_cons, ← Nat.add_assoc, Nat.add_right_comm]
      exact (run_bind_ok (run_lift read)).trans ((run_bind_ok processed).trans ran)

/-- A run over all folders of a source shows its beginning, all that is served, and its end. -/
theorem run_continuous_log (same : source.cells = AnchorTable.input.cells)
    (toLog : s.ToLog) :
    ∃ s' served,
      ((Task.continuous none).run (stage d) (feed source)).run.run s = (.ok (), s') ∧
      Showed s s' (⟨.info, "开始任务..."⟩ :: served.flatten ++ [⟨.info,
        s!"任务完成，共处理 {(source.loadable s.session.disk source.folders).length} 帧，退出"⟩]) ∧
      List.Forall₂ (Shows d source s.session.disk) source.folders served := by
  obtain ⟨s₁, began, showed₁⟩ := run_inform (d := d) toLog "开始任务..."
  obtain ⟨s₂, served, ran, showed₂, each⟩ :=
    run_processAll (d := d) same source.folders 0 showed₁.disk_eq showed₁.toLog
  obtain ⟨s₃, concluded, showed₃⟩ := run_conclude (d := d) showed₂.toLog
  obtain ⟨s₄, told, showed₄⟩ := run_inform (d := d) showed₃.toLog
    s!"任务完成，共处理 {(source.loadable s.session.disk source.folders).length} 帧，退出"
  rw [Nat.zero_add] at ran
  refine ⟨s₄, served, ?_, ?_, each⟩
  · refine (run_bind_ok began).trans ((run_bind_ok ran).trans ?_)
    exact (run_bind_ok concluded).trans told
  · exact showed₁.trans (showed₂.trans (showed₃.trans showed₄))

end RunState

end FaceDecode
