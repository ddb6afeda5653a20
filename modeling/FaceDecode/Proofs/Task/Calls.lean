import FaceDecode.Task.Run
import Mathlib.Data.List.Basic

namespace FaceDecode

inductive Call (φ δ : Type) where
  | pull (frame : φ)
  | infer (frame : φ)
  | render (frame : φ) (result : δ)
  | finish

namespace Call

variable {φ δ μ ρ : Type}

def event? : Call φ δ → Option (Event φ δ)
  | pull frame => some (.pulled frame)
  | infer _ => none
  | render frame result => some (.rendered frame result)
  | finish => some .finished

def trace (calls : List (Call φ δ)) : List (Event φ δ) := calls.filterMap event?

theorem trace_append (calls calls' : List (Call φ δ)) :
    trace (calls ++ calls') = trace calls ++ trace calls' :=
  List.filterMap_append

variable (infer : φ → Except μ δ) (verdict : Array (Event φ δ) → Option ρ)

/-- How a call fails that is made after those before it. -/
def failure? (before : List (Call φ δ)) : Call φ δ → Option (TaskError μ ρ)
  | pull _ => none
  | .infer frame =>
    match infer frame with
    | .ok _ => none
    | .error failure => some (.infer failure)
  | c => (verdict (trace (before ++ [c])).toArray).map .render

/-- One of the calls that are made after those before them fails, and in this way. -/
def Fails (before calls : List (Call φ δ)) (failure : TaskError μ ρ) : Prop :=
  ∃ front c back, calls = front ++ c :: back ∧
    failure? infer verdict (before ++ front) c = some failure

/-- Of a plan that is taken up after other calls, these calls are made: all of them, or those up to
the first that fails. -/
inductive CarriedOut :
    List (Call φ δ) → List (Call φ δ) → List (Call φ δ) → Option (TaskError μ ρ) → Prop
  | done (before : List (Call φ δ)) : CarriedOut before [] [] none
  | stop {before : List (Call φ δ)} {c : Call φ δ} {failure : TaskError μ ρ}
      (plan : List (Call φ δ)) : failure? infer verdict before c = some failure →
      CarriedOut before (c :: plan) [c] (some failure)
  | step {before plan calls : List (Call φ δ)} {c : Call φ δ} {cut : Option (TaskError μ ρ)} :
      failure? infer verdict before c = none → CarriedOut (before ++ [c]) plan calls cut →
      CarriedOut before (c :: plan) (c :: calls) cut

/-- What calls come to: none is made after one that fails, and the outcome is its failure. -/
structure Ends (calls : List (Call φ δ)) (outcome : Except (TaskError μ ρ) Unit) : Prop where
  passed : ∀ front c back, calls = front ++ c :: back → back ≠ [] →
    failure? infer verdict front c = none
  ok_iff : outcome = .ok () ↔ ∀ failure, ¬ Fails infer verdict [] calls failure
  error_iff : ∀ failure, outcome = .error failure ↔ Fails infer verdict [] calls failure

variable {infer verdict} {before plan plan' calls calls' : List (Call φ δ)}
  {cut : Option (TaskError μ ρ)}

theorem not_fails_nil {failure : TaskError μ ρ} : ¬ Fails infer verdict before [] failure := by
  rintro ⟨front, c, back, parts, -⟩
  simp at parts

theorem fails_cons {c : Call φ δ} {failure : TaskError μ ρ} :
    Fails infer verdict before (c :: calls) failure ↔
      failure? infer verdict before c = some failure ∨
        Fails infer verdict (before ++ [c]) calls failure := by
  constructor
  · rintro ⟨_ | ⟨_, front⟩, c', back, parts, failed⟩
    · obtain ⟨rfl, -⟩ := List.cons.inj parts
      rw [List.append_nil] at failed
      exact .inl failed
    · obtain ⟨rfl, rfl⟩ := List.cons.inj parts
      rw [List.append_cons] at failed
      exact .inr ⟨front, c', back, rfl, failed⟩
  · rintro (failed | ⟨front, c', back, rfl, failed⟩)
    · exact ⟨[], c, calls, rfl, by rwa [List.append_nil]⟩
    · exact ⟨c :: front, c', back, rfl, by rwa [List.append_cons]⟩

theorem not_fails_of_answers
    (answers : ∀ frame, .infer frame ∈ calls → ∃ result, infer frame = .ok result)
    (never : ∀ events, verdict events = none) (failure : TaskError μ ρ) :
    ¬ Fails infer verdict before calls failure := by
  rintro ⟨front, c, back, rfl, failed⟩
  cases c with
  | pull => cases failed
  | infer frame =>
    obtain ⟨result, answer⟩ := answers frame (List.mem_append_right front List.mem_cons_self)
    rw [failure?, answer] at failed
    cases failed
  | render => simp [failure?, never] at failed
  | finish => simp [failure?, never] at failed

namespace CarriedOut

theorem eq_plan (h : CarriedOut infer verdict before plan calls cut) (whole : cut = none) :
    calls = plan := by
  induction h with
  | done => rfl
  | stop => cases whole
  | step _ _ ih => rw [ih whole]

theorem prefix_plan (h : CarriedOut infer verdict before plan calls cut) : calls <+: plan := by
  induction h with
  | done => exact List.prefix_rfl
  | @stop _ c _ plan _ => exact List.prefix_append [c] plan
  | step _ _ ih => exact List.cons_prefix_cons.2 ⟨rfl, ih⟩

theorem append (h : CarriedOut infer verdict before plan calls cut) (whole : cut = none)
    {cut' : Option (TaskError μ ρ)}
    (h' : CarriedOut infer verdict (before ++ plan) plan' calls' cut') :
    CarriedOut infer verdict before (plan ++ plan') (plan ++ calls') cut' := by
  induction h with
  | done before => rwa [List.append_nil] at h'
  | stop => cases whole
  | step passed _ ih =>
    rw [List.append_cons] at h'
    exact .step passed (ih whole h')

theorem append_stop (h : CarriedOut infer verdict before plan calls cut) (broken : cut ≠ none)
    (plan' : List (Call φ δ)) : CarriedOut infer verdict before (plan ++ plan') calls cut := by
  induction h with
  | done => exact absurd rfl broken
  | stop plan failed => exact .stop (plan ++ plan') failed
  | step passed _ ih => exact .step passed (ih broken)

theorem split (h : CarriedOut infer verdict before (plan ++ plan') calls cut) :
    cut ≠ none ∧ CarriedOut infer verdict before plan calls cut ∨
      ∃ calls', calls = plan ++ calls' ∧ CarriedOut infer verdict before plan plan none ∧
        CarriedOut infer verdict (before ++ plan) plan' calls' cut := by
  induction plan generalizing before calls with
  | nil =>
    rw [← List.append_nil before] at h
    exact .inr ⟨calls, rfl, .done before, h⟩
  | cons c plan ih =>
    cases h with
    | stop _ failed => exact .inl ⟨Option.some_ne_none _, .stop plan failed⟩
    | step passed h =>
      rcases ih h with ⟨broken, h⟩ | ⟨calls', rfl, h, h'⟩
      · exact .inl ⟨broken, .step passed h⟩
      · rw [List.append_cons]
        exact .inr ⟨calls', rfl, .step passed h, h'⟩

theorem of_passed {c : Call φ δ} (h : CarriedOut infer verdict before (c :: plan) calls cut)
    (passed : failure? infer verdict before c = none) :
    ∃ rest, calls = c :: rest ∧ CarriedOut infer verdict (before ++ [c]) plan rest cut := by
  cases h with
  | stop _ failed =>
    rw [passed] at failed
    cases failed
  | step _ rest => exact ⟨_, rfl, rest⟩

theorem eq_single {c : Call φ δ} (h : CarriedOut infer verdict before [c] calls cut) :
    calls = [c] := by
  cases h with
  | stop => rfl
  | step _ rest =>
    cases rest
    rfl

theorem split_last {c : Call φ δ}
    (h : CarriedOut infer verdict before (plan ++ [c]) calls cut) :
    cut ≠ none ∧ CarriedOut infer verdict before plan calls cut ∨
      calls = plan ++ [c] ∧ CarriedOut infer verdict before plan plan none := by
  rcases h.split with h | ⟨calls', rfl, whole, last⟩
  · exact .inl h
  · exact .inr ⟨congrArg _ last.eq_single, whole⟩

theorem passed (h : CarriedOut infer verdict before plan calls cut)
    {front back : List (Call φ δ)} {c : Call φ δ} (parts : calls = front ++ c :: back)
    (further : back ≠ []) : failure? infer verdict (before ++ front) c = none := by
  induction h generalizing front with
  | done => simp at parts
  | stop plan failed =>
    cases front with
    | nil => exact absurd (List.cons.inj parts).2.symm further
    | cons => simp at parts
  | step passed _ ih =>
    cases front with
    | nil =>
      obtain ⟨rfl, -⟩ := List.cons.inj parts
      rwa [List.append_nil]
    | cons _ front =>
      obtain ⟨rfl, tail⟩ := List.cons.inj parts
      rw [List.append_cons]
      exact ih tail

/-- A plan is broken off just where one of the calls that are made fails. -/
theorem fails_iff (h : CarriedOut infer verdict before plan calls cut) {failure : TaskError μ ρ} :
    Fails infer verdict before calls failure ↔ cut = some failure := by
  induction h with
  | done => simp [not_fails_nil]
  | stop plan failed => simp [fails_cons, not_fails_nil, failed]
  | step passed _ ih => rw [fails_cons, ih, passed]; simp

theorem not_fails (h : CarriedOut infer verdict before plan calls none) (failure : TaskError μ ρ) :
    ¬ Fails infer verdict before calls failure := by
  simp [h.fails_iff]

theorem exists_fails (h : CarriedOut infer verdict before plan calls cut) (broken : cut ≠ none) :
    ∃ failure, cut = some failure ∧ Fails infer verdict before calls failure := by
  obtain ⟨failure, rfl⟩ := Option.ne_none_iff_exists'.1 broken
  exact ⟨failure, rfl, h.fails_iff.2 rfl⟩

theorem ends (h : CarriedOut infer verdict [] plan calls cut) :
    Ends infer verdict calls (cut.elim (.ok ()) .error) where
  passed _ _ _ parts further := h.passed parts further
  ok_iff := by
    simp only [h.fails_iff]
    cases cut <;> simp
  error_iff failure := by
    rw [h.fails_iff]
    cases cut <;> simp

end CarriedOut

end Call

end FaceDecode
