import FaceDecode.Proofs.CommandLine.Reports
import FaceDecode.Proofs.Input.Contents

namespace FaceDecode

variable {ε α : Type}

theorem Ensures.ofLogging {step : Logging ε α} {good : α → Prop} {allowed : ε → Prop}
    (h : Ensures step good allowed) : Ensures (Job.ofLogging step) good allowed :=
  fun session ↦ h session.log

theorem Ensures.write (level : Level) (text : String) {allowed : ε → Prop} :
    Ensures (Job.write level text) (fun _ ↦ True) allowed := fun _ ↦ ⟨⟩

theorem FrameFolders.ensures_ofAnyLocator (disk : Disk) (l : Locator) :
    Ensures (ofAnyLocator disk l) (fun source ↦ source.cells = AnchorTable.input.cells)
      fun _ ↦ True := by
  intro log
  rcases opened : (ofAnyLocator disk l).run.run log with ⟨e | source, log'⟩
  · exact ⟨⟩
  · exact (opened_source opened).1

theorem Sink.ensures_ofLocator {l : Locator} (named : l.scheme = logScheme) :
    Ensures (ofLocator l) (fun sink ↦ ∃ s, sink = .log s) fun _ ↦ True := by
  have known : Ensures (get : Job SinkError Session) (fun _ ↦ True) fun _ ↦ True := .trivial _
  refine known.bind fun session _ ↦ ?_
  rw [if_pos named]
  have opened : Ensures ((Job.ofLogging (LogSink.ofLocator l)).mapError .log : Job SinkError LogSink)
    (fun _ ↦ True) fun _ ↦ True := .trivial _
  exact opened.bind fun s _ ↦ .pure ⟨s, rfl⟩

namespace RunState

variable {d : Detector} {source : FrameFolders}

theorem answering_stage :
    Task.Answering (stage d) fun frame ↦ frame.cells = AnchorTable.input.cells := by
  intro frame same s
  obtain ⟨report, lines, -, ran⟩ := d.exists_quiet_report same
  have answered : (((stage d).infer frame).run.run s).1 = .ok report :=
    congrArg Prod.fst (ran s.session.log)
  rw [answered]
  exact ⟨⟩

theorem feeding_feed (same : source.cells = AnchorTable.input.cells) :
    Task.Feeding (feed source) fun frame ↦ frame.cells = AnchorTable.input.cells := by
  intro read h s frame found
  obtain ⟨folder, -, rfl⟩ := List.mem_map.1 h
  exact (FrameFolders.cells_of_loaded (FrameFolders.loaded_of_loadFrame? found)).trans same

end RunState

theorem Program.ensures_run {plan : RunPlan} {kind : Sink → Prop}
    {allowed : TaskError InferError SinkError → Prop}
    (sinks : Ensures (Sink.ofLocator plan.output) kind fun _ ↦ True)
    (performs : ∀ (source : FrameFolders) (d : Detector) (s : RunState),
      source.cells = AnchorTable.input.cells → kind s.sink →
      Judged (fun _ ↦ True) allowed
        ((plan.task.run (RunState.stage d) (RunState.feed source)).run.run s).1)
    (program : Program) :
    Ensures (program.run plan) (fun _ ↦ True) fun e ↦
      ∀ failure, e = .task failure → allowed failure := by
  refine (Ensures.write _ _).bind fun _ _ ↦ (Ensures.write _ _).bind fun _ _ ↦
    (Ensures.write _ _).bind fun _ _ ↦ ?_
  have known : Ensures (get : Job RunError Session) (fun _ ↦ True) fun e ↦
    ∀ failure, e = .task failure → allowed failure := fun _ ↦ ⟨⟩
  refine known.bind fun session _ ↦ ?_
  have opened := (FrameFolders.ensures_ofAnyLocator session.disk plan.input).ofLogging
  refine (opened.mapError fun _ _ _ ↦ nofun).bind fun source same ↦ ?_
  have rest : Ensures (do
      let draft ← (Job.ofLogging (DetectorDraft.ofLocator plan.model)).mapError .settings
      let detector ← (Job.ofLogging (Detector.build draft)).mapError .settings
      let sink ← (Sink.ofLocator plan.output).mapError .sink
      plan.task.perform source detector sink) (fun _ ↦ True) fun e ↦
        ∀ failure, e = .task failure → allowed failure := by
    refine ((Ensures.trivial _).mapError fun _ _ _ ↦ nofun).bind fun draft _ ↦ ?_
    refine ((Ensures.trivial _).mapError fun _ _ _ ↦ nofun).bind fun d _ ↦ ?_
    refine (sinks.mapError fun _ _ _ ↦ nofun).bind fun sink sunk ↦ ?_
    intro session
    refine (performs source d ⟨session, sink⟩ same sunk).mapError fun failure h failure' told ↦ ?_
    cases told
    exact h
  -- One of the programs tells the number of frames first; from there on both do the same.
  split
  case isTrue => exact (Ensures.write _ _).bind fun _ _ ↦ rest
  case isFalse => exact rest

theorem Program.ensures_unrefused (program : Program) (plan : RunPlan) :
    Ensures (program.run plan) (fun _ ↦ True) fun e ↦
      ∀ failure, e = .task failure → Task.Outside failure :=
  ensures_run (.trivial _) (fun _ _ s same _ ↦
    Task.ensures_run RunState.answering_stage (RunState.feeding_feed same) plan.task s) program

theorem Program.ensures_logged {plan : RunPlan} (unlimited : plan.task = .continuous none)
    (logged : plan.output.scheme = logScheme) (program : Program) :
    Ensures (program.run plan) (fun _ ↦ True) fun e ↦ ∀ failure, e = .task failure → False := by
  refine ensures_run (Sink.ensures_ofLocator logged) (fun source d s same toLog ↦ ?_) program
  obtain ⟨s', served, ran, -⟩ := RunState.run_continuous_log (d := d) same toLog
  rw [unlimited, ran]
  exact ⟨⟩

/-- Of a source that was opened, every frame has the cells of the anchors, and any detector answers it;
so no run of a program fails because its detector refuses a frame. A run over all frames that reports
to the log goes to its end: for each folder of the source, in the order of their names, it shows the
report of the frame in it, or why there is none. -/
theorem FrameFolders.served {disk : Disk} {l : Locator} {log log' : Log} {source : FrameFolders}
    (opened : (ofAnyLocator disk l).run.run log = (.ok source, log')) (d : Detector) :
    (∀ frame, source.Yields frame → frame.cells = AnchorTable.input.cells ∧
      ∃ report, Quiet (d.infer frame) (.ok report)) ∧
    (∀ (program : Program) (plan : RunPlan) (session session' : Session) (e : RunError),
      (program.run plan).run.run session = (.error e, session') →
        (∀ failure, e ≠ .task (.infer failure)) ∧
        (plan.task = .continuous none → plan.output.scheme = logScheme →
          ∀ failure, e ≠ .task failure)) ∧
    Listing disk source.format l.decodedPath source.folders ∧
    ∀ (sink : LogSink) (session : Session), ∃ session' served,
      ((Task.continuous none).perform source d (.log sink)).run.run session = (.ok (), session') ∧
      session'.disk = session.disk ∧
      shown session'.log = shown session.log ++ (⟨.info, "开始任务..."⟩ :: served.flatten ++ [⟨.info,
        s!"任务完成，共处理 {(source.loadable session.disk source.folders).length} 帧，退出"⟩]) ∧
      List.Forall₂ (Shows d source session.disk) source.folders served := by
  obtain ⟨same, listing⟩ := opened_source opened
  refine ⟨fun frame yields ↦ ?_, fun program plan session session' e failed ↦ ⟨?_, ?_⟩, listing,
    fun sink session ↦ ?_⟩
  · have cells := (cells_of_yields yields).trans same
    exact ⟨cells, d.exists_quiet_report cells⟩
  · have judged := Program.ensures_unrefused program plan session
    rw [failed] at judged
    exact fun failure same ↦ judged _ same failure rfl
  · intro unlimited logged failure same
    have judged := Program.ensures_logged unlimited logged program session
    rw [failed] at judged
    exact judged _ same
  · obtain ⟨s', served, ran, showed, each⟩ :=
      RunState.run_continuous_log (d := d) (s := ⟨session, .log sink⟩) same ⟨sink, rfl⟩
    refine ⟨s'.session, served, ?_, showed.disk_eq, showed.shown_eq, each⟩
    exact congrArg (fun p : Except (TaskError InferError SinkError) Unit × RunState ↦
      (p.1.mapError RunError.task, p.2.session)) ran

theorem FrameFolders.served_empty_then_frame :
    ∃ (disk : Disk) (l : Locator) (source : FrameFolders) (log' : Log) (d : Detector)
      (session session' : Session) (report : Report) (lines : List Line),
      l.text = "raw:///" ∧ (ofAnyLocator disk l).run.run #[] = (.ok source, log') ∧
      source.folders = ["/e", "/f"] ∧
      source.loaded disk "/f" = .ok (.zeros AnchorTable.input.cells) ∧
      Quiet (d.infer (.zeros AnchorTable.input.cells)) (.ok report) ∧ report.faces ≠ [] ∧
      LogSink.Tells report lines ∧ session.disk = disk ∧ session.log = #[] ∧
      ((Task.continuous none).perform source d (.log {})).run.run session = (.ok (), session') ∧
      shown session'.log = ⟨.info, "开始任务..."⟩ :: skippedLine "/e" (.noTensors "/e") ::
        (lines ++ [⟨.info, "任务完成，共处理 1 帧，退出"⟩]) := by
  obtain ⟨content, zeros⟩ : ∃ content : Slot → ByteArray, ∀ slot,
      content slot = ⟨.replicate (4 * slot.length AnchorTable.input.cells) 0⟩ := ⟨_, fun _ ↦ rfl⟩
  let disk : Disk := sampleDisk content
  let l : Locator := ⟨"raw", some "", "/", none, none⟩
  let source : FrameFolders := ⟨.raw, AnchorTable.input.cells, ["/e", "/f"]⟩
  let draft : DetectorDraft := { detect := { scoreThreshold := 0.5 } }
  let d : Detector := ⟨draft, draft.fault?_eq_none_iff.2 (by decide)⟩
  let now : UtcTime := { year := 2026, month := 1, day := 1, hour := 0, minute := 0, second := 0 }
  let session : Session := { disk, now }
  have framed : framesIn disk .raw l.decodedPath = .ok ["/e", "/f"] := by cbv
  have chosen : TensorFormat.ofScheme? l.scheme = some .raw := by cbv
  obtain ⟨log', opened⟩ : ∃ log', (ofAnyLocator disk l).run.run #[] = (.ok source, log') := by
    rw [ofAnyLocator, chosen]
    show ∃ log', (ofLocator disk .raw l).run.run #[] = (.ok source, log')
    rw [ofLocator, if_pos (show l.scheme = TensorFormat.raw.scheme from rfl), openAt, framed]
    exact ⟨_, rfl⟩
  have bare : source.loaded disk "/e" = .error (.noTensors "/e") := by
    have none : tensorFiles disk .raw "/e" = .ok [] := by cbv
    rw [loaded, none]
    rfl
  have held : source.loaded disk "/f" = .ok (.zeros AnchorTable.input.cells) := by
    refine loaded_sampleDisk_zeros ?_ _ zeros
    rw [AnchorTable.cells_input]
    decide
  have loadable : source.loadable disk source.folders = ["/f"] := by
    rw [loadable_cons_of_error bare, loadable_cons_of_ok held]
    rfl
  obtain ⟨-, -, -, runs⟩ := served opened d
  obtain ⟨session', served, ran, -, told, each⟩ := runs {} session
  obtain ⟨first, _, shows_e, others, rfl⟩ := List.forall₂_cons_left_iff.1 each
  obtain ⟨lines, _, shows_f, none, rfl⟩ := List.forall₂_cons_left_iff.1 others
  obtain rfl := List.forall₂_nil_left_iff.1 none
  obtain ⟨report, answered, tells⟩ := shows_f.exists_report held
  have some_face : report.faces ≠ [] := by
    refine Detector.faces_ne_nil (Frame.cells_zeros _) answered (p := ⟨0, 0, 0⟩) ?_
      (Detection.half_le_probability_zeros _ _)
    rw [Frame.Has, Frame.zeros_cells, AnchorTable.cells_input]
    decide
  rw [loadable, shows_e.eq_of_error bare] at told
  refine ⟨disk, l, source, _, d, session, session', report, lines, by cbv, opened, rfl, held, answered,
    some_face, tells, rfl, rfl, ran, ?_⟩
  rw [List.flatten_cons, List.flatten_cons, List.flatten_nil, List.append_nil] at told
  exact told

end FaceDecode
