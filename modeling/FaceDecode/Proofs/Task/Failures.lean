import FaceDecode.Proofs.Logging
import FaceDecode.Task.Run

namespace FaceDecode

variable {σ ε ε' α β : Type}

/-- What came of a step is a good value, or a failure of an allowed kind. -/
def Judged (good : α → Prop) (allowed : ε → Prop) : Except ε α → Prop
  | .ok a => good a
  | .error e => allowed e

theorem Judged.mapError {good : α → Prop} {allowed : ε → Prop} {allowed' : ε' → Prop} {f : ε → ε'}
    {r : Except ε α} (h : Judged good allowed r) (h' : ∀ e, allowed e → allowed' (f e)) :
    Judged good allowed' (r.mapError f) := by
  cases r with
  | ok a => exact h
  | error e => exact h' e h

/-- From any state a step comes to a good value or fails in an allowed way. -/
def Ensures (step : Attempt σ ε α) (good : α → Prop) (allowed : ε → Prop) : Prop :=
  ∀ s, Judged good allowed (step.run.run s).1

namespace Ensures

variable {step : Attempt σ ε α} {good : α → Prop} {good' : β → Prop} {allowed : ε → Prop}

theorem pure {a : α} (h : good a) : Ensures (pure a : Attempt σ ε α) good allowed := fun _ ↦ h

theorem throw {e : ε} (h : allowed e) : Ensures (throw e : Attempt σ ε α) good allowed := fun _ ↦ h

theorem lift {m : StateM σ α} (h : ∀ s, good (m.run s).1) :
    Ensures (ExceptT.lift m : Attempt σ ε α) good allowed := h

theorem trivial (step : Attempt σ ε α) : Ensures step (fun _ ↦ True) fun _ ↦ True := by
  intro s
  cases (step.run.run s).1 <;> exact ⟨⟩

theorem bind {next : α → Attempt σ ε β} (h : Ensures step good allowed)
    (h' : ∀ a, good a → Ensures (next a) good' allowed) :
    Ensures (step >>= next) good' allowed := by
  intro s
  have judged := h s
  rcases first : step.run.run s with ⟨e | a, s'⟩ <;> rw [first] at judged
  · rw [run_bind_error first]
    exact judged
  · rw [run_bind_ok first]
    exact h' a judged s'

theorem mapError {allowed' : ε' → Prop} {f : ε → ε'} (h : Ensures step good allowed)
    (h' : ∀ e, allowed e → allowed' (f e)) : Ensures (step.mapError f) good allowed' :=
  fun s ↦ (h s).mapError h'

end Ensures

namespace Task

variable {φ δ μ ρ : Type} {s : Stage σ φ δ μ ρ} {good : φ → Prop}

def Outside (e : TaskError μ ρ) : Prop := ∀ failure, e ≠ .infer failure

def Answering (s : Stage σ φ δ μ ρ) (good : φ → Prop) : Prop :=
  ∀ frame, good frame → Ensures (s.infer frame) (fun _ ↦ True) fun _ ↦ False

/-- All frames of a feed are good. -/
def Feeding (feed : Feed σ φ) (good : φ → Prop) : Prop :=
  ∀ read ∈ feed, ∀ state frame, (read.run state).1 = some frame → good frame

variable (s) in
theorem ensures_inform (text : String) : Ensures (s.inform text) (fun _ ↦ True) Outside :=
  .lift fun _ ↦ ⟨⟩

variable (s) in
theorem ensures_conclude : Ensures s.conclude (fun _ ↦ True) Outside :=
  (Ensures.trivial s.finish).mapError fun _ _ _ ↦ nofun

theorem ensures_process (answering : Answering s good) {frame : φ} (h : good frame) :
    Ensures (s.process frame) (fun _ ↦ True) Outside := by
  have answer : Ensures ((s.infer frame).mapError .infer) (fun _ ↦ True)
      (Outside : TaskError μ ρ → Prop) := (answering frame h).mapError fun _ ↦ False.elim
  exact answer.bind fun result _ ↦
    (Ensures.trivial _).mapError fun _ _ _ ↦ nofun

theorem ensures_processTimes (answering : Answering s good) {frame : φ} (h : good frame) (n : Nat) :
    Ensures (s.processTimes frame n) (fun _ ↦ True) Outside := by
  induction n with
  | zero => exact .pure ⟨⟩
  | succ n ih => exact (ensures_process answering h).bind fun _ _ ↦ ih

theorem Feeding.tail {read : StateM σ (Option φ)} {feed : Feed σ φ}
    (feeding : Feeding (read :: feed) good) : Feeding feed good :=
  fun read' h ↦ feeding read' (List.mem_cons_of_mem read h)

theorem good_of_next {feed : Feed σ φ} (feeding : Feeding feed good) (state : σ) (frame : φ)
    (h : (feed.next.run state).1.1 = some frame) : good frame := by
  induction feed generalizing state with
  | nil => cases h
  | cons read feed ih =>
    rcases pulled : read.run state with ⟨_ | frame', state'⟩
    · rw [Feed.next, run_bind_of_eq pulled] at h
      exact ih feeding.tail state' h
    · rw [Feed.next, run_bind_of_eq pulled] at h
      refine feeding read List.mem_cons_self state frame ?_
      rw [pulled]
      exact h

theorem ensures_first {feed : Feed σ φ} (feeding : Feeding feed good) :
    Ensures (Stage.first feed) good (Outside : TaskError μ ρ → Prop) := by
  have pulled : Ensures (ExceptT.lift feed.next : Attempt σ (TaskError μ ρ) _)
      (fun p ↦ ∀ frame, p.1 = some frame → good frame) Outside := .lift (good_of_next feeding)
  refine pulled.bind fun p sound ↦ ?_
  match p with
  | (some frame, _) => exact .pure (sound frame rfl)
  | (none, _) => exact .throw fun _ ↦ nofun

theorem ensures_processAll (answering : Answering s good) {feed : Feed σ φ}
    (feeding : Feeding feed good) (limit : Option Nat) (done : Nat) :
    Ensures (s.processAll limit done feed) (fun _ ↦ True) Outside := by
  -- Whether a read finds a frame depends on the state, so nothing is known of it but that it is good.
  induction feed generalizing done with
  | nil => exact .pure ⟨⟩
  | cons read feed ih =>
    rw [Stage.processAll]
    have pulled : Ensures (ExceptT.lift read : Attempt σ (TaskError μ ρ) (Option φ))
        (fun found ↦ ∀ frame, found = some frame → good frame) Outside :=
      .lift (feeding read List.mem_cons_self)
    refine pulled.bind fun found sound ↦ ?_
    cases found with
    | none => exact ih feeding.tail done
    | some frame =>
      refine (ensures_process answering (sound frame rfl)).bind fun _ _ ↦ ?_
      split
      case isTrue => exact (ensures_inform s _).bind fun _ _ ↦ .pure ⟨⟩
      case isFalse => exact ih feeding.tail (done + 1)

/-- Where the model answers all frames, no task fails at it. -/
theorem ensures_run (answering : Answering s good) {feed : Feed σ φ} (feeding : Feeding feed good)
    (task : Task) : Ensures (task.run s feed) (fun _ ↦ True) Outside := by
  refine (ensures_inform s _).bind fun _ _ ↦ ?_
  cases task with
  | once =>
    refine (ensures_first feeding).bind fun frame sound ↦ (ensures_inform s _).bind fun _ _ ↦ ?_
    exact (ensures_process answering sound).bind fun _ _ ↦ ensures_conclude s
  | repeated runs =>
    refine (ensures_first feeding).bind fun frame sound ↦ (ensures_inform s _).bind fun _ _ ↦ ?_
    have rest := (ensures_processTimes answering sound (max runs 1)).bind fun _ _ ↦ ensures_conclude s
    -- Too many runs are refused before the first one, which is no failure of the model.
    split
    case isTrue =>
      have refused : Ensures (throw (.tooManyRuns (max runs 1)) : Attempt σ (TaskError μ ρ) Unit)
          (fun _ ↦ True) Outside := .throw fun _ ↦ nofun
      exact refused.bind fun _ _ ↦ rest
    case isFalse => exact rest
  | continuous limit =>
    refine (ensures_processAll answering feeding limit 0).bind fun done _ ↦ ?_
    exact (ensures_conclude s).bind fun _ _ ↦ ensures_inform s _

end Task

end FaceDecode
