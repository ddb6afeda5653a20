import FaceDecode.Proofs.Task.Plan

namespace FaceDecode

open Call

variable {φ δ μ ρ : Type}

namespace Recording

def rendering? : Event φ δ → Option (φ × δ)
  | .rendered frame result => some (frame, result)
  | _ => none

def renderings (r : Recording φ δ) : List (φ × δ) := r.events.toList.filterMap rendering?

end Recording

open Recording

variable (infer : φ → Except μ δ) (verdict : Array (Event φ δ) → Option ρ)

def answered? (frame : φ) : Option (φ × δ) :=
  match infer frame with
  | .ok result => some (frame, result)
  | .error _ => none

theorem renderings_handling (pulled : List φ) :
    (trace (pulled.flatMap (Stage.handling infer))).filterMap rendering? =
      pulled.filterMap (answered? infer) := by
  have each (frame : φ) : (trace (Stage.handling infer frame)).filterMap rendering? =
      (answered? infer frame).toList := by
    rw [Stage.handling, Stage.processing, answered?]
    cases infer frame <;> rfl
  induction pulled with
  | nil => rfl
  | cons frame pulled ih =>
    rw [List.flatMap_cons, trace_append, List.filterMap_append, ih, each, List.filterMap_cons]
    cases answered? infer frame <;> rfl

namespace Task

/-- A run handles the frames that its limit allows, up to a call that fails, and then ends. -/
theorem run_continuous_allowed (limit : Option Nat) (frames : List φ) :
    ∃ outcome r pulled calls,
      ((continuous limit).run (stage infer verdict) (feed frames)).run.run {} = (outcome, r) ∧
      r.events.toList = trace calls ∧ r.renderings = pulled.filterMap (answered? infer) ∧
      Ends infer verdict calls outcome ∧ pulled <+: Stage.allowed limit 0 frames ∧
      ((∀ failure, ¬ Fails infer verdict [] (pulled.flatMap (Stage.handling infer)) failure) →
        calls = pulled.flatMap (Stage.handling infer) ++ [.finish] ∧
          pulled = Stage.allowed limit 0 frames) ∧
      ((∃ failure, Fails infer verdict [] (pulled.flatMap (Stage.handling infer)) failure) →
        calls = pulled.flatMap (Stage.handling infer)) := by
  obtain ⟨calls, cut, r, carried, ran, recorded⟩ :=
    (follows_continuous limit frames : Follows infer verdict _ _ ()) [] {} rfl
  rw [List.nil_append] at recorded
  rcases carried.split_last with ⟨broken, handled⟩ | ⟨rfl, whole⟩
  · obtain ⟨pulled, first, rfl⟩ := Stage.exists_pulled _ handled
    obtain ⟨failure, -, fails⟩ := handled.exists_fails broken
    refine ⟨_, r, pulled, _, ran, recorded, ?_, handled.ends, first, ?_, fun _ ↦ rfl⟩
    · rw [renderings, recorded, renderings_handling]
    · exact fun sound ↦ absurd fails (sound failure)
  · refine ⟨_, r, Stage.allowed limit 0 frames, _, ran, recorded, ?_, carried.ends,
      List.prefix_rfl, fun _ ↦ ⟨rfl, rfl⟩, ?_⟩
    · rw [renderings, recorded, trace_append, List.filterMap_append, renderings_handling]
      exact List.append_nil _
    · rintro ⟨failure, fails⟩
      exact absurd fails (whole.not_fails failure)

variable {infer verdict}

/-- With a limit of one frame or more, a run pulls no more frames than that, renders each that the
model answers with its answer, and stops at the first call that fails. It finishes, last of all and
once, just where the model and the renderings have not failed. -/
theorem run_continuous {limit : Option Nat} (positive : ∀ n, limit = some n → 1 ≤ n)
    (frames : List φ) :
    ∃ outcome r pulled calls,
      ((continuous limit).run (stage infer verdict) (feed frames)).run.run {} = (outcome, r) ∧
      r.events.toList = trace calls ∧ r.renderings = pulled.filterMap (answered? infer) ∧
      Ends infer verdict calls outcome ∧ pulled <+: frames ∧
      (∀ n, limit = some n → pulled.length ≤ n) ∧
      ((∀ failure, ¬ Fails infer verdict [] (pulled.flatMap (Stage.handling infer)) failure) →
        calls = pulled.flatMap (Stage.handling infer) ++ [.finish] ∧
          pulled = limit.elim frames (frames.take ·)) ∧
      ((∃ failure, Fails infer verdict [] (pulled.flatMap (Stage.handling infer)) failure) →
        calls = pulled.flatMap (Stage.handling infer)) := by
  obtain ⟨outcome, r, pulled, calls, ran, recorded, rendered, ends, first, finished, broken⟩ :=
    run_continuous_allowed infer verdict limit frames
  have allowed : Stage.allowed limit 0 frames = limit.elim frames (frames.take ·) := by
    cases limit with
    | none => rfl
    | some n => exact congrArg (List.take · frames) (Nat.max_eq_left (positive n rfl))
  refine ⟨outcome, r, pulled, calls, ran, recorded, rendered, ends,
    first.trans (Stage.allowed_prefix_frames frames limit 0), ?_, ?_, broken⟩
  · rintro n rfl
    rw [allowed] at first
    exact Nat.le_trans first.length_le (List.length_take_le n frames)
  · rwa [allowed] at finished

theorem run_continuous_unanswered :
    (∀ n, some 3 = some n → 1 ≤ n) ∧
      ∃ outcome r pulled,
        ((continuous (some 3)).run
          (stage (fun x : Int ↦ if x < 0 then .error x else .ok (2 * x)) fun _ ↦ (none : Option Int))
          (feed [5, -1, 6])).run.run {} = (outcome, r) ∧
        r.renderings = pulled.filterMap
          (answered? fun x : Int ↦ if x < 0 then .error x else .ok (2 * x)) ∧
        pulled <+: [5, -1, 6] ∧ pulled.length ≤ 3 ∧ outcome = .error (.infer (-1)) ∧
        r.renderings = [(5, 10)] := by
  have positive : ∀ n, some 3 = some n → 1 ≤ n := by
    rintro n ⟨⟩
    decide
  obtain ⟨outcome, r, pulled, calls, ran, -, rendered, -, first, most, -⟩ :=
    run_continuous positive [5, -1, 6]
  refine ⟨positive, outcome, r, pulled, ran, rendered, first, most 3 rfl, ?_, ?_⟩
  · exact (congrArg Prod.fst ran).symm
  · exact (congrArg (fun p ↦ p.2.renderings) ran).symm

theorem fails_of_answer {pulled : List φ} {frame : φ} (h : frame ∈ pulled) {failure : μ}
    (answer : infer frame = .error failure) :
    Fails infer verdict [] (pulled.flatMap (Stage.handling infer)) (.infer failure) := by
  obtain ⟨front, back, rfl⟩ := List.append_of_mem h
  refine ⟨front.flatMap (Stage.handling infer) ++ [.pull frame], .infer frame,
    back.flatMap (Stage.handling infer), ?_, ?_⟩
  · simp [Stage.handling, Stage.processing, answer]
  · rw [failure?, answer]

theorem mem_of_infer {pulled : List φ} {frame : φ}
    (h : .infer frame ∈ pulled.flatMap (Stage.handling infer)) : frame ∈ pulled := by
  obtain ⟨frame', there, h⟩ := List.mem_flatMap.1 h
  rw [Stage.handling, Stage.processing] at h
  cases answer : infer frame' <;> simp [answer] at h <;> rwa [h]

theorem length_answered {pulled : List φ}
    (sound : ∀ failure, ¬ Fails infer verdict [] (pulled.flatMap (Stage.handling infer)) failure) :
    (pulled.filterMap (answered? infer)).length = pulled.length := by
  rw [List.length_filterMap_eq_countP]
  refine List.countP_eq_length.2 fun frame h ↦ ?_
  cases answer : infer frame with
  | error failure => exact absurd (fails_of_answer h answer) (sound _)
  | ok result =>
    rw [answered?, answer]
    rfl

/-- The limit is only looked at after a frame, so a limit of no frames lets one through. -/
theorem run_limited (n : Nat) (frames : List φ) :
    ∃ outcome r,
      ((continuous (some n)).run (stage infer verdict) (feed frames)).run.run {} = (outcome, r) ∧
      r.renderings.length ≤ max n 1 ∧
      (outcome = .ok () → r.renderings.length = min (max n 1) frames.length) ∧
      ((∀ frame ∈ frames, ∃ result, infer frame = .ok result) → (∀ events, verdict events = none) →
        outcome = .ok ()) := by
  obtain ⟨outcome, r, pulled, calls, ran, -, rendered, ends, first, finished, broken⟩ :=
    run_continuous_allowed infer verdict (some n) frames
  have most : (Stage.allowed (some n) 0 frames).length = min (max n 1) frames.length :=
    List.length_take
  refine ⟨outcome, r, ran, ?_, ?_, ?_⟩
  · have := first.length_le
    have := List.length_filterMap_le (answered? infer) pulled
    rw [rendered]
    omega
  · intro ok
    have sound (failure : TaskError μ ρ) :
        ¬ Fails infer verdict [] (pulled.flatMap (Stage.handling infer)) failure := by
      intro fails
      rw [← broken ⟨failure, fails⟩] at fails
      exact ends.ok_iff.1 ok failure fails
    rw [rendered, length_answered sound, (finished sound).2, most]
  · intro answers never
    have whole := first.trans (Stage.allowed_prefix_frames frames (some n) 0)
    have answered (frame : φ) (h : .infer frame ∈ pulled.flatMap (Stage.handling infer)) :
        ∃ result, infer frame = .ok result := answers frame (whole.subset (mem_of_infer h))
    obtain ⟨rfl, -⟩ := finished (not_fails_of_answers answered never)
    refine ends.ok_iff.2 (not_fails_of_answers (fun frame h ↦ answered frame ?_) never)
    simpa using h

theorem run_limited_zero :
    ∃ outcome r,
      ((continuous (some 0)).run
        (stage (fun x : Int ↦ (.ok (2 * x) : Except Int Int)) fun _ ↦ (none : Option Int))
        (feed [1, 2])).run.run {} = (outcome, r) ∧
      outcome = .ok () ∧ r.renderings = [(1, 2)] ∧ ¬ r.renderings.length ≤ 0 :=
  ⟨_, _, rfl, rfl, rfl, by decide⟩

end Task

end FaceDecode
