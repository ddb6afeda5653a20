import FaceDecode.Proofs.Task.Plan

namespace FaceDecode.Task

open Call Recording

variable {φ δ μ ρ : Type} {infer : φ → Except μ δ} {verdict : Array (Event φ δ) → Option ρ}

theorem finish_not_mem_processing (frame : φ) : .finish ∉ Stage.processing infer frame := by
  rw [Stage.processing]
  cases infer frame <;> simp

theorem finish_not_mem_handling (task : Task) (frame : φ) (frames : List φ) :
    .finish ∉ task.handling infer frame frames := by
  have single (frame : φ) : .finish ∉ Stage.handling infer frame := by
    simp [Stage.handling, finish_not_mem_processing frame]
  cases task with
  | once => exact single frame
  | repeated runs =>
    simp only [handling, List.mem_cons, List.mem_flatten, List.mem_replicate, reduceCtorEq, false_or]
    rintro ⟨_, ⟨-, rfl⟩, there⟩
    exact finish_not_mem_processing frame there
  | continuous limit =>
    simp only [handling, List.mem_flatMap]
    rintro ⟨frame', -, there⟩
    exact single frame' there

/-- Of any task that has a frame: the calls before the end are made up to the first that fails, and
the end follows just where none of them does. -/
theorem run_finishes {task : Task} (held : task.Held) (frame : φ) (frames : List φ) :
    ∃ outcome r body calls,
      (task.run (stage infer verdict) (feed (frame :: frames))).run.run {} = (outcome, r) ∧
      r.events.toList = trace calls ∧ Ends infer verdict calls outcome ∧ .finish ∉ body ∧
      ((∀ failure, ¬ Fails infer verdict [] body failure) → calls = body ++ [.finish]) ∧
      ((∃ failure, Fails infer verdict [] body failure) → calls = body) := by
  obtain ⟨calls, cut, r, carried, ran, recorded⟩ :=
    (follows_run held frame frames : Follows infer verdict _ _ ()) [] {} rfl
  have unfinished : .finish ∉ task.handling infer frame frames :=
    finish_not_mem_handling task frame frames
  rw [List.nil_append] at recorded
  rcases carried.split_last with ⟨broken, handled⟩ | ⟨rfl, whole⟩
  · obtain ⟨failure, -, fails⟩ := handled.exists_fails broken
    refine ⟨_, r, calls, calls, ran, recorded, handled.ends, ?_, ?_, fun _ ↦ rfl⟩
    · exact fun there ↦ unfinished (handled.prefix_plan.subset there)
    · exact fun sound ↦ absurd fails (sound failure)
  · refine ⟨_, r, task.handling infer frame frames, _, ran, recorded, carried.ends, unfinished,
      fun _ ↦ rfl, ?_⟩
    rintro ⟨failure, fails⟩
    exact absurd fails (whole.not_fails failure)

theorem run_finishes_repeated :
    (repeated 3).Held ∧
      ∃ outcome r body calls,
        ((repeated 3).run (stage (fun x : Int ↦ (.ok (2 * x) : Except Int Int))
          fun events ↦ if events.size = 3 then some (1 : Int) else none)
          (feed [4, 5])).run.run {} = (outcome, r) ∧
        r.events.toList = trace calls ∧ .finish ∉ body ∧
        ((∀ failure, ¬ Fails (fun x : Int ↦ (.ok (2 * x) : Except Int Int))
          (fun events ↦ if events.size = 3 then some (1 : Int) else none) [] body failure) →
            calls = body ++ [.finish]) ∧
        outcome = .error (.render 1) ∧ r.events = #[.pulled 4, .rendered 4 8, .rendered 4 8] := by
  have held : (repeated 3).Held := by
    rintro runs ⟨⟩
    decide
  obtain ⟨outcome, r, body, calls, ran, recorded, -, unfinished, finished, -⟩ :=
    run_finishes held (4 : Int) [5]
  refine ⟨held, outcome, r, body, calls, ran, recorded, unfinished, finished, ?_, ?_⟩
  · exact (congrArg Prod.fst ran).symm
  · exact (congrArg (fun p ↦ p.2.events) ran).symm

/-- A failure of the model ends a run of any task, and nothing is finished. -/
theorem run_unfinished :
    ([once, repeated 2, continuous none].map fun task ↦
      let (outcome, r) :=
        (task.run (stage (fun x : Int ↦ (.error x : Except Int Int)) fun _ ↦ (none : Option Int))
          (feed [7])).run.run {}
      (outcome, r.events.toList.count .finished)) = List.replicate 3 (.error (.infer 7), 0) :=
  rfl

end FaceDecode.Task
