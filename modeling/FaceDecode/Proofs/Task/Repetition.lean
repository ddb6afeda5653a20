import FaceDecode.Proofs.Logging
import FaceDecode.Task.Run

namespace FaceDecode

/-- What shows results. It has a state, and each call may change the state and may fail. -/
structure Viewer (κ φ δ ρ : Type) where
  render : φ → δ → Attempt κ ρ Unit
  finish : Attempt κ ρ Unit

structure Watched (κ φ δ : Type) where
  viewer : κ
  recording : Recording φ δ := {}

variable {κ φ δ μ ρ ε ε' α β : Type}

namespace Watched

def record (e : Event φ δ) (w : Watched κ φ δ) : Watched κ φ δ :=
  { w with recording := w.recording.record e }

def call (step : Attempt κ ρ Unit) (e : Event φ δ) : Attempt (Watched κ φ δ) ρ Unit := fun w ↦
  let (outcome, viewer) := step w.viewer
  (outcome, { w.record e with viewer })

def feed (frames : List φ) : Feed (Watched κ φ δ) φ :=
  frames.map fun frame ↦ do
    modify (record (.pulled frame))
    return some frame

def pulled? : Event φ δ → Option φ
  | .pulled frame => some frame
  | _ => none

def pulled (w : Watched κ φ δ) : List φ := w.recording.events.toList.filterMap pulled?

def shown (w : Watched κ φ δ) : List (Event φ δ) :=
  w.recording.events.toList.filter fun e ↦ (pulled? e).isNone

def seen (w : Watched κ φ δ) : κ × List (Event φ δ) := (w.viewer, w.shown)

theorem pulled_record (e : Event φ δ) (w : Watched κ φ δ) :
    (w.record e).pulled = w.pulled ++ (pulled? e).toList := by
  cases e <;> simp [pulled, record, Recording.record, pulled?]

theorem shown_record (e : Event φ δ) (w : Watched κ φ δ) :
    (w.record e).shown = w.shown ++ [e].filter fun e ↦ (pulled? e).isNone := by
  simp [shown, record, Recording.record]

theorem seen_record_pulled (frame : φ) (w : Watched κ φ δ) :
    (w.record (.pulled frame)).seen = w.seen :=
  Prod.ext rfl ((shown_record (.pulled frame) w).trans (List.append_nil _))

end Watched

def Viewer.stage (d : Viewer κ φ δ ρ) (infer : φ → Except μ δ) :
    Stage (Watched κ φ δ) φ δ μ ρ where
  note line := modify fun w ↦ { w with recording.log := w.recording.log.push line }
  infer frame := Attempt.ofExcept (infer frame)
  render frame result := Watched.call (d.render frame result) (.rendered frame result)
  finish := Watched.call d.finish .finished

/-- From states that the viewer cannot tell apart the two steps come to the same, in such states
again, and the first step pulls no frame. -/
def Mirrors (step step' : Attempt (Watched κ φ δ) ε α) : Prop :=
  ∀ w w', w.seen = w'.seen →
    (step.run.run w).1 = (step'.run.run w').1 ∧
      (step.run.run w).2.seen = (step'.run.run w').2.seen ∧
      (step.run.run w).2.pulled = w.pulled

namespace Mirrors

open Watched

variable {step step' : Attempt (Watched κ φ δ) ε α}

theorem bind {next next' : α → Attempt (Watched κ φ δ) ε β} (h : Mirrors step step')
    (h' : ∀ a, Mirrors (next a) (next' a)) : Mirrors (step >>= next) (step' >>= next') := by
  intro w w' same
  have first := h w w' same
  rcases ran : step.run.run w with ⟨e | a, t⟩ <;> rcases ran' : step'.run.run w' with ⟨e' | a', t'⟩ <;>
    rw [ran, ran'] at first <;> obtain ⟨⟨⟩, alike, unpulled⟩ := first
  · rw [run_bind_error ran, run_bind_error ran']
    exact ⟨rfl, alike, unpulled⟩
  · rw [run_bind_ok ran, run_bind_ok ran']
    obtain ⟨outcome, alike', unpulled'⟩ := h' a t t' alike
    exact ⟨outcome, alike', unpulled'.trans unpulled⟩

theorem mapError (h : Mirrors step step') (f : ε → ε') :
    Mirrors (step.mapError f) (step'.mapError f) := by
  intro w w' same
  obtain ⟨outcome, rest⟩ := h w w' same
  exact ⟨congrArg (Except.mapError f) outcome, rest⟩

theorem skip {first : Attempt (Watched κ φ δ) ε β} {next : β → Attempt (Watched κ φ δ) ε α} {b : β}
    (unseen : ∀ w, ∃ t, first.run.run w = (.ok b, t) ∧ t.seen = w.seen)
    (h : Mirrors step (next b)) : Mirrors step (first >>= next) := by
  intro w w' same
  obtain ⟨t, ran, alike⟩ := unseen w'
  rw [run_bind_ok ran]
  exact h w t (same.trans alike.symm)

theorem exists_run (h : Mirrors step step') {w w' t : Watched κ φ δ} {outcome : Except ε α}
    (same : w.seen = w'.seen) (ran : step.run.run w = (outcome, t)) :
    ∃ t', step'.run.run w' = (outcome, t') ∧ t.seen = t'.seen ∧ t.pulled = w.pulled := by
  have mirrored := h w w' same
  rw [ran] at mirrored
  exact ⟨(step'.run.run w').2, Prod.ext mirrored.1.symm rfl, mirrored.2⟩

theorem call (step : Attempt κ ρ Unit) {e : Event φ δ} (visible : pulled? e = none) :
    Mirrors (call step e) (call step e) := by
  intro w w' same
  obtain ⟨viewer, shown⟩ := Prod.mk.inj same
  refine ⟨congrArg (fun k ↦ (step k).1) viewer, Prod.ext ?_ ?_, ?_⟩
  · exact congrArg (fun k ↦ (step k).2) viewer
  · exact (shown_record e w).trans ((congrArg (· ++ _) shown).trans (shown_record e w').symm)
  · refine (pulled_record e w).trans ?_
    rw [visible]
    exact List.append_nil _

end Mirrors

namespace Stage

open Watched

variable (d : Viewer κ φ δ ρ) (infer : φ → Except μ δ) (frame : φ)

theorem mirrors_process : Mirrors ((d.stage infer).process frame) ((d.stage infer).process frame) := by
  have answered : Mirrors ((d.stage infer).infer frame) ((d.stage infer).infer frame) :=
    fun _ _ same ↦ ⟨rfl, same, rfl⟩
  exact (answered.mapError TaskError.infer).bind fun result ↦
    (Mirrors.call (d.render frame result) rfl).mapError TaskError.render

theorem mirrors_conclude : Mirrors (d.stage infer).conclude (d.stage infer).conclude :=
  (Mirrors.call d.finish rfl).mapError TaskError.render

theorem inform_unseen (text : String) (w : Watched κ φ δ) :
    ∃ w', ((d.stage infer).inform text).run.run w = (.ok (), w') ∧ w'.seen = w.seen :=
  ⟨_, rfl, rfl⟩

theorem pull_unseen (w : Watched κ φ δ) :
    ∃ w', (ExceptT.lift (do modify (record (.pulled frame)); return some frame) :
        Attempt (Watched κ φ δ) (TaskError μ ρ) (Option φ)).run.run w = (.ok (some frame), w') ∧
      w'.seen = w.seen :=
  ⟨_, rfl, seen_record_pulled frame w⟩

theorem mirrors_processAll {next : Nat → Attempt (Watched κ φ δ) (TaskError μ ρ) α}
    {step : Attempt (Watched κ φ δ) (TaskError μ ρ) α} (h : ∀ done, Mirrors step (next done))
    (n done : Nat) :
    Mirrors ((d.stage infer).processTimes frame n >>= fun _ ↦ step)
      ((d.stage infer).processAll none done (feed (List.replicate n frame)) >>= next) := by
  induction n generalizing done with
  | zero => exact h done
  | succ n ih =>
    rw [processTimes, bind_assoc, List.replicate_succ, feed, List.map_cons, processAll, bind_assoc]
    refine .skip (pull_unseen frame) ?_
    rw [bind_assoc]
    exact (mirrors_process d infer frame).bind fun _ ↦ ih (done + 1)

/-- All that the viewer sees of a frame that is run many times. -/
def repeatedly (n : Nat) : Attempt (Watched κ φ δ) (TaskError μ ρ) Unit := do
  (d.stage infer).processTimes frame n
  (d.stage infer).conclude

end Stage

namespace Task

open Watched Stage

variable (d : Viewer κ φ δ ρ) (infer : φ → Except μ δ) (frame : φ) (frames : List φ)

theorem mirrors_continuous (n : Nat) :
    Mirrors (repeatedly d infer frame n)
      ((continuous none).run (d.stage infer) (feed (List.replicate n frame))) := by
  refine .skip (inform_unseen d infer _) (mirrors_processAll d infer frame (fun done ↦ ?_) n 0)
  have ended : Mirrors (pure ()) ((d.stage infer).inform s!"任务完成，共处理 {done} 帧，退出") :=
    fun _ _ same ↦ ⟨rfl, same, rfl⟩
  have concluded := (mirrors_conclude d infer).bind fun _ ↦ ended
  rwa [bind_pure] at concluded

theorem mirrors_once :
    Mirrors (repeatedly d infer frame 1) (once.run (d.stage infer) (feed (frame :: frames))) := by
  have taken (w : Watched κ φ δ) :
      ∃ w', (first (feed (frame :: frames)) :
        Attempt (Watched κ φ δ) (TaskError μ ρ) φ).run.run w = (.ok frame, w') ∧ w'.seen = w.seen :=
    ⟨_, rfl, seen_record_pulled frame w⟩
  refine .skip (inform_unseen d infer _) (.skip taken (.skip (inform_unseen d infer _) ?_))
  rw [repeatedly, processTimes, bind_assoc]
  exact (mirrors_process d infer frame).bind fun _ ↦ mirrors_conclude d infer

theorem run_repeated_eq {runs : Nat} (held : runs ≤ maxRuns) (w : Watched κ φ δ) :
    ∃ w', ((repeated runs).run (d.stage infer) (feed (frame :: frames))).run.run w =
        (repeatedly d infer frame (max runs 1)).run.run w' ∧
      w'.seen = w.seen ∧ w'.pulled = w.pulled ++ [frame] := by
  have few : ¬ maxRuns < max runs 1 := by
    have : 1 ≤ maxRuns := by decide
    omega
  simp only [run, if_neg few]
  exact ⟨_, rfl, seen_record_pulled frame w, pulled_record (.pulled frame) w⟩

/-- A frame that is run many times is pulled once. The viewer gets the calls that it would get for a
stream of so many copies and ends in the same state, and the outcome is the same; for a single run
this is also what running the frame once comes to. -/
theorem run_repeated_copies {runs : Nat} (held : runs ≤ maxRuns) (k : κ) :
    ∃ outcome w w',
      ((repeated runs).run (d.stage infer) (feed (frame :: frames))).run.run ⟨k, {}⟩ =
        (outcome, w) ∧
      ((continuous none).run (d.stage infer)
        (feed (List.replicate (max runs 1) frame))).run.run ⟨k, {}⟩ = (outcome, w') ∧
      w.shown = w'.shown ∧ w.viewer = w'.viewer ∧ w.pulled = [frame] ∧
      (runs ≤ 1 → ∃ w'',
        (once.run (d.stage infer) (feed (frame :: frames))).run.run ⟨k, {}⟩ = (outcome, w'') ∧
        w.shown = w''.shown ∧ w.viewer = w''.viewer) := by
  obtain ⟨w₁, ran, same, framePulled⟩ := run_repeated_eq d infer frame frames held ⟨k, {}⟩
  rcases ran₁ : (repeatedly d infer frame (max runs 1)).run.run w₁ with ⟨outcome, w⟩
  obtain ⟨w', ran', alike, unpulled⟩ := (mirrors_continuous d infer frame _).exists_run same ran₁
  refine ⟨outcome, w, w', ran.trans ran₁, ran', congrArg Prod.snd alike, congrArg Prod.fst alike,
    unpulled.trans framePulled, fun single ↦ ?_⟩
  rw [Nat.max_eq_right single] at ran₁
  obtain ⟨w'', ran'', alike, -⟩ := (mirrors_once d infer frame frames).exists_run same ran₁
  exact ⟨w'', ran'', congrArg Prod.snd alike, congrArg Prod.fst alike⟩

def countingViewer : Viewer Nat Int Int Int where
  render _ _ := do
    modify (· + 1)
    if (← get) = 3 then throw 7
  finish := modify (· + 1)

theorem run_repeated_copies_counted : 5 ≤ maxRuns ∧
    ∃ outcome w w',
      ((repeated 5).run (countingViewer.stage fun x ↦ (.ok (2 * x) : Except Int Int))
        (feed [4, 6])).run.run ⟨0, {}⟩ = (outcome, w) ∧
      ((continuous none).run (countingViewer.stage fun x ↦ (.ok (2 * x) : Except Int Int))
        (feed [4, 4, 4, 4, 4])).run.run ⟨0, {}⟩ = (outcome, w') ∧
      w.shown = w'.shown ∧ w.viewer = w'.viewer ∧ w.pulled = [4] ∧
      outcome = .error (.render 7) ∧ w.shown = List.replicate 3 (.rendered 4 8) := by
  have held : 5 ≤ maxRuns := by decide
  obtain ⟨outcome, w, w', ran, ran', shown, viewer, pulled, -⟩ :=
    run_repeated_copies countingViewer (fun x ↦ (.ok (2 * x) : Except Int Int)) 4 [6] held 0
  refine ⟨held, outcome, w, w', ran, ran', shown, viewer, pulled, ?_, ?_⟩
  · exact (congrArg Prod.fst ran).symm
  · exact (congrArg (fun p ↦ p.2.shown) ran).symm

end Task

end FaceDecode
