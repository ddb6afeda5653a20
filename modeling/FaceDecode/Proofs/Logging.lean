import FaceDecode.Log
import Mathlib.Data.List.Basic

namespace FaceDecode

variable {α β σ ε ε' : Type}

theorem run_bind_ok {step : Attempt σ ε α} {next : α → Attempt σ ε β} {s s' : σ} {a : α}
    (h : step.run.run s = (.ok a, s')) : (step >>= next).run.run s = (next a).run.run s' := by
  rw [ExceptT.run_bind, StateT.run_bind, h]
  rfl

theorem run_bind_error {step : Attempt σ ε α} {next : α → Attempt σ ε β} {s s' : σ} {e : ε}
    (h : step.run.run s = (.error e, s')) : (step >>= next).run.run s = (.error e, s') := by
  rw [ExceptT.run_bind, StateT.run_bind, h]
  rfl

theorem run_bind_of_eq {step : StateM σ α} {next : α → StateM σ β} {s s' : σ} {a : α}
    (h : step.run s = (a, s')) : (step >>= next).run s = (next a).run s' := by
  rw [StateT.run_bind, h]
  rfl

theorem run_lift {m : StateM σ α} {s s' : σ} {a : α} (h : m.run s = (a, s')) :
    (ExceptT.lift m : Attempt σ ε α).run.run s = (.ok a, s') :=
  congrArg (fun p : α × σ ↦ ((.ok p.1, p.2) : Except ε α × σ)) h

theorem run_mapError {step : Attempt σ ε α} {s s' : σ} {r : Except ε α}
    (h : step.run.run s = (r, s')) (f : ε → ε') :
    (step.mapError f).run.run s = (r.mapError f, s') :=
  congrArg (fun p : Except ε α × σ ↦ (p.1.mapError f, p.2)) h

theorem run_forIn_write (level : Level) (text : α → String) (l : List α) (log : Log) :
    (forIn l () fun a _ ↦ do
      Logging.write level (text a)
      return .yield () : Logging ε Unit).run.run log =
      (.ok (), log ++ (l.map fun a ↦ (⟨level, text a⟩ : Line)).toArray) := by
  induction l generalizing log with
  | nil => exact congrArg (Prod.mk _) Array.append_empty.symm
  | cons a l ih =>
    rw [List.forIn_cons]
    refine (ih (log.push ⟨level, text a⟩)).trans ?_
    simp

def shown (log : Log) : List Line := log.toList.filter (·.level.isShown)

theorem shown_push (log : Log) (line : Line) (h : line.level.isShown = true) :
    shown (log.push line) = shown log ++ [line] := by
  simp [shown, h]

theorem shown_append (log : Log) (lines : List Line) :
    shown (log ++ lines.toArray) = shown log ++ lines.filter (·.level.isShown) := by
  simp [shown]

/-- With any log a step comes to the same, and it leaves only lines there that are not shown. -/
def Quiet (step : Logging ε α) (r : Except ε α) : Prop :=
  ∃ lines : List Line, lines.filter (·.level.isShown) = [] ∧
    ∀ log, step.run.run log = (r, log ++ lines.toArray)

namespace Quiet

theorem ofExcept (r : Except ε α) : Quiet (Attempt.ofExcept r) r :=
  ⟨[], rfl, fun _ ↦ congrArg (Prod.mk r) Array.append_empty.symm⟩

theorem pure (a : α) : Quiet (ε := ε) (pure a) (.ok a) := ofExcept (.ok a)

theorem throw (e : ε) : Quiet (α := α) (throw e) (.error e) := ofExcept (.error e)

theorem debug (text : String) : Quiet (ε := ε) (Logging.write .debug text) (.ok ()) :=
  ⟨[⟨.debug, text⟩], rfl, fun _ ↦ rfl⟩

theorem bind {step : Logging ε α} {next : α → Logging ε β} {r : Except ε α} {f : α → Except ε β}
    (h : Quiet step r) (h' : ∀ a, Quiet (next a) (f a)) : Quiet (step >>= next) (r >>= f) := by
  obtain ⟨lines, hidden, ran⟩ := h
  cases r with
  | error e => exact ⟨lines, hidden, fun log ↦ run_bind_error (ran log)⟩
  | ok a =>
    obtain ⟨lines', hidden', ran'⟩ := h' a
    refine ⟨lines ++ lines', ?_, fun log ↦ ?_⟩
    · rw [List.filter_append, hidden, hidden']
      rfl
    · have joined : lines.toArray ++ lines'.toArray = (lines ++ lines').toArray := by simp
      rw [run_bind_ok (ran log), ran', Array.append_assoc, joined]
      rfl

theorem mapM {step : α → Logging ε β} {f : α → Except ε β} (h : ∀ a, Quiet (step a) (f a))
    (l : List α) : Quiet (l.mapM step) (l.mapM f) := by
  induction l with
  | nil => exact .pure []
  | cons a l ih =>
    rw [List.mapM_cons, List.mapM_cons]
    exact (h a).bind fun b ↦ ih.bind fun l' ↦ .pure (b :: l')

theorem shown_eq {step : Logging ε α} {r : Except ε α} (h : Quiet step r) (log : Log) :
    ∃ log', step.run.run log = (r, log') ∧ shown log' = shown log := by
  obtain ⟨lines, hidden, ran⟩ := h
  refine ⟨_, ran log, ?_⟩
  rw [shown_append, hidden, List.append_nil]

end Quiet

end FaceDecode
