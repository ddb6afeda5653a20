import FaceDecode.Proofs.Logging
import FaceDecode.Proofs.Task.Calls

namespace FaceDecode

open Call

variable {φ δ μ ρ α β : Type} (infer : φ → Except μ δ) (verdict : Array (Event φ δ) → Option ρ)

/-- A step makes the calls of a plan. If none of them fails it gives `a`, otherwise the failure. -/
def Follows (step : Attempt (Recording φ δ) (TaskError μ ρ) α) (plan : List (Call φ δ)) (a : α) :
    Prop :=
  ∀ (before : List (Call φ δ)) (r : Recording φ δ), r.events.toList = trace before →
    ∃ calls cut r', CarriedOut infer verdict before plan calls cut ∧
      step.run.run r = (cut.elim (.ok a) .error, r') ∧
      r'.events.toList = trace (before ++ calls)

variable {infer verdict}

theorem Follows.bind {step : Attempt (Recording φ δ) (TaskError μ ρ) α}
    {next : α → Attempt (Recording φ δ) (TaskError μ ρ) β} {plan plan' : List (Call φ δ)} {a : α}
    {b : β} (h : Follows infer verdict step plan a) (h' : Follows infer verdict (next a) plan' b) :
    Follows infer verdict (step >>= next) (plan ++ plan') b := by
  intro before r recorded
  obtain ⟨calls, cut, r₁, carried, ran, recorded₁⟩ := h before r recorded
  cases cut with
  | some failure =>
    refine ⟨calls, some failure, r₁, carried.append_stop (Option.some_ne_none _) plan', ?_, recorded₁⟩
    exact run_bind_error ran
  | none =>
    obtain rfl := carried.eq_plan rfl
    obtain ⟨calls', cut, r₂, carried', ran', recorded₂⟩ := h' (before ++ calls) r₁ recorded₁
    refine ⟨calls ++ calls', cut, r₂, carried.append rfl carried', ?_, ?_⟩
    · rw [run_bind_ok ran]
      exact ran'
    · rwa [List.append_assoc] at recorded₂

theorem Follows.single {step : Attempt (Recording φ δ) (TaskError μ ρ) α} {c : Call φ δ} {a : α}
    (h : ∀ before r, r.events.toList = trace before → ∃ r',
      step.run.run r = ((failure? infer verdict before c).elim (.ok a) .error, r') ∧
        r'.events.toList = trace (before ++ [c])) :
    Follows infer verdict step [c] a := by
  intro before r recorded
  obtain ⟨r', ran, recorded'⟩ := h before r recorded
  cases failed : failure? infer verdict before c with
  | none =>
    refine ⟨[c], none, r', .step failed (.done _), ?_, recorded'⟩
    rwa [failed] at ran
  | some failure =>
    refine ⟨[c], some failure, r', .stop [] failed, ?_, recorded'⟩
    rwa [failed] at ran

theorem follows_pure (a : α) : Follows infer verdict (pure a) [] a :=
  fun before r recorded ↦ ⟨[], none, r, .done before, rfl, by rwa [List.append_nil]⟩

theorem trace_concat {c : Call φ δ} {e : Event φ δ} (h : c.event? = some e)
    (before : List (Call φ δ)) : trace (before ++ [c]) = trace before ++ [e] := by
  rw [trace_append, trace, trace, List.filterMap_cons_some h, List.filterMap_nil]

theorem trace_infer (before : List (Call φ δ)) (frame : φ) :
    trace (before ++ [.infer frame]) = trace before := by
  rw [trace_append]
  exact List.append_nil _

namespace Recording

theorem record_events {before : List (Call φ δ)} {r : Recording φ δ} {c : Call φ δ} {e : Event φ δ}
    (h : c.event? = some e) (recorded : r.events.toList = trace before) :
    (record e r).events.toList = trace (before ++ [c]) := by
  rw [trace_concat h, ← recorded]
  exact Array.toList_push

theorem run_call (e : Event φ δ) (r : Recording φ δ) :
    (call verdict e).run.run r =
      ((verdict (record e r).events).elim (.ok ()) .error, record e r) := by
  have recorded : (modify (record e) : Attempt (Recording φ δ) ρ Unit).run.run r =
      (.ok (), record e r) := rfl
  have known : (get : Attempt (Recording φ δ) ρ _).run.run (record e r) =
      (.ok (record e r), record e r) := rfl
  rw [call, run_bind_ok recorded, run_bind_ok known]
  cases verdict (record e r).events <;> rfl

theorem follows_call {c : Call φ δ} {e : Event φ δ} (h : c.event? = some e)
    (judged : ∀ before, failure? infer verdict before c =
      (verdict (trace (before ++ [c])).toArray).map .render) :
    Follows infer verdict ((call verdict e).mapError .render) [c] () := by
  refine .single fun before r recorded ↦ ⟨record e r, ?_, record_events h recorded⟩
  rw [judged, ← record_events h recorded, Array.toArray_toList, run_mapError (run_call e r)]
  cases verdict (record e r).events <;> rfl

end Recording

namespace Stage

open Recording

variable (frame : φ) (frames : List φ)

theorem follows_inform (text : String) :
    Follows infer verdict ((stage infer verdict).inform text) [] () :=
  fun before _ recorded ↦ ⟨[], none, _, .done before, rfl, by rwa [List.append_nil]⟩

theorem follows_pull :
    Follows infer verdict
      (ExceptT.lift (do modify (record (.pulled frame)); return some frame)) [.pull frame]
      (some frame) :=
  .single fun _ _ recorded ↦ ⟨_, rfl, record_events rfl recorded⟩

variable (infer) in
def processing : List (Call φ δ) :=
  .infer frame ::
    match infer frame with
    | .ok result => [.render frame result]
    | .error _ => []

theorem follows_process :
    Follows infer verdict ((stage infer verdict).process frame) (processing infer frame) () := by
  -- The plan depends on the answer: where there is none, asking is the last call.
  have ran (r : Recording φ δ) :
      (((stage infer verdict).infer frame).mapError (.infer : μ → TaskError μ ρ)).run.run r =
        ((infer frame).mapError .infer, r) :=
    run_mapError rfl _
  cases answer : infer frame with
  | error failure =>
    intro before r recorded
    have failed : failure? infer verdict before (.infer frame) = some (.infer failure) := by
      rw [failure?, answer]
    have stopped := ran r
    rw [answer] at stopped
    exact ⟨[.infer frame], some (.infer failure), r, .stop _ failed, run_bind_error stopped,
      by rwa [trace_infer]⟩
  | ok result =>
    have planned : processing infer frame = [.infer frame] ++ [.render frame result] := by
      rw [processing, answer]
      rfl
    have answered : Follows infer verdict
        (((stage infer verdict).infer frame).mapError .infer) [.infer frame] result := by
      refine .single fun before r recorded ↦ ⟨r, ?_, by rwa [trace_infer]⟩
      rw [ran r, failure?, answer]
      rfl
    rw [planned]
    exact answered.bind (follows_call rfl fun _ ↦ rfl)

theorem follows_processTimes (n : Nat) :
    Follows infer verdict ((stage infer verdict).processTimes frame n)
      (List.replicate n (processing infer frame)).flatten () := by
  induction n with
  | zero => exact follows_pure ()
  | succ n ih => exact (follows_process frame).bind ih

theorem follows_conclude :
    Follows infer verdict (stage infer verdict).conclude [.finish] () :=
  follows_call rfl fun _ ↦ rfl

theorem follows_first :
    Follows infer verdict (Stage.first (feed (frame :: frames))) [.pull frame] frame :=
  .single fun _ _ recorded ↦ ⟨_, rfl, record_events rfl recorded⟩

variable (infer) in
def handling : List (Call φ δ) := .pull frame :: processing infer frame

/-- No more than the last call about a frame can fail. -/
theorem eq_handling {before calls : List (Call φ δ)} {cut : Option (TaskError μ ρ)}
    (h : CarriedOut infer verdict before (handling infer frame) calls cut) :
    calls = handling infer frame := by
  rw [handling, processing] at h ⊢
  obtain ⟨rest, rfl, asking⟩ := h.of_passed rfl
  cases answer : infer frame with
  | error failure =>
    simp only [answer] at asking ⊢
    rw [asking.eq_single]
  | ok result =>
    simp only [answer] at asking ⊢
    obtain ⟨rest, rfl, rendering⟩ := asking.of_passed (by rw [failure?, answer])
    rw [rendering.eq_single]

theorem exists_pulled {before calls : List (Call φ δ)} {cut : Option (TaskError μ ρ)}
    (h : CarriedOut infer verdict before (frames.flatMap (handling infer)) calls cut) :
    ∃ pulled, pulled <+: frames ∧ calls = pulled.flatMap (handling infer) := by
  induction frames generalizing before calls with
  | nil => exact ⟨[], List.prefix_rfl, by cases h; rfl⟩
  | cons frame frames ih =>
    rw [List.flatMap_cons] at h
    rcases h.split with ⟨-, h⟩ | ⟨calls', rfl, -, h⟩
    · refine ⟨[frame], ?_, ?_⟩
      · exact List.prefix_append [frame] frames
      · rw [eq_handling frame h, List.flatMap_singleton]
    · obtain ⟨pulled, first, rfl⟩ := ih h
      exact ⟨frame :: pulled, List.cons_prefix_cons.2 ⟨rfl, first⟩, rfl⟩

/-- The frames that a limit leaves when some are done. It is only looked at after a frame, so there is
always one more. -/
def allowed (limit : Option Nat) (done : Nat) (frames : List φ) : List φ :=
  match limit with
  | none => frames
  | some n => frames.take (max (n - done) 1)

theorem allowed_prefix_frames (limit : Option Nat) (done : Nat) :
    allowed limit done frames <+: frames := by
  cases limit with
  | none => exact List.prefix_rfl
  | some n => exact List.take_prefix _ frames

variable {limit : Option Nat} {done : Nat}

theorem allowed_cons_of_reached (reached : limit.any (· ≤ done + 1) = true) :
    allowed limit done (frame :: frames) = [frame] := by
  cases limit with
  | none => cases reached
  | some n =>
    have last : max (n - done) 1 = 1 := by
      have : n ≤ done + 1 := of_decide_eq_true reached
      omega
    rw [allowed, last]
    rfl

theorem allowed_cons (further : ¬ limit.any (· ≤ done + 1) = true) :
    allowed limit done (frame :: frames) = frame :: allowed limit (done + 1) frames := by
  cases limit with
  | none => rfl
  | some n =>
    have more : max (n - done) 1 = max (n - (done + 1)) 1 + 1 := by
      have : ¬ n ≤ done + 1 := fun h ↦ further (decide_eq_true h)
      omega
    rw [allowed, more]
    rfl

theorem follows_processAll (limit : Option Nat) (done : Nat) :
    Follows infer verdict ((stage infer verdict).processAll limit done (feed frames))
      ((allowed limit done frames).flatMap (handling infer))
      (done + (allowed limit done frames).length) := by
  -- Whether the limit is reached depends on the frames done so far, so these grow in the induction.
  induction frames generalizing done with
  | nil =>
    rw [List.prefix_nil.1 (allowed_prefix_frames [] limit done)]
    exact follows_pure done
  | cons frame frames ih =>
    rw [feed, List.map_cons, processAll]
    by_cases reached : limit.any (· ≤ done + 1) = true
    · rw [allowed_cons_of_reached frame frames reached, List.flatMap_singleton,
        ← List.append_nil (handling infer frame)]
      refine (follows_pull frame).bind ((follows_process frame).bind ?_)
      rw [if_pos reached]
      exact (follows_inform _).bind (follows_pure (done + 1))
    · rw [allowed_cons frame frames reached, List.flatMap_cons]
      refine (follows_pull frame).bind ((follows_process frame).bind ?_)
      rw [if_neg reached, List.length_cons, ← Nat.add_assoc, Nat.add_right_comm]
      exact ih (done + 1)

end Stage

namespace Task

open Recording Stage

/-- Whether the times of all runs can be kept. -/
def Held (task : Task) : Prop := ∀ runs, task = .repeated runs → runs ≤ maxRuns

variable (infer) in
def handling (frame : φ) (frames : List φ) : Task → List (Call φ δ)
  | .once => Stage.handling infer frame
  | .repeated runs => .pull frame :: (List.replicate (max runs 1) (processing infer frame)).flatten
  | .continuous limit => (allowed limit 0 (frame :: frames)).flatMap (Stage.handling infer)

theorem follows_continuous (limit : Option Nat) (frames : List φ) :
    Follows infer verdict ((continuous limit).run (stage infer verdict) (feed frames))
      ((allowed limit 0 frames).flatMap (Stage.handling infer) ++ [.finish]) () := by
  refine (follows_inform _).bind ((follows_processAll frames limit 0).bind ?_)
  exact follows_conclude.bind (follows_inform _)

theorem follows_run {task : Task} (held : task.Held) (frame : φ) (frames : List φ) :
    Follows infer verdict (task.run (stage infer verdict) (feed (frame :: frames)))
      (task.handling infer frame frames ++ [.finish]) () := by
  cases task with
  | once =>
    refine (follows_inform _).bind ((follows_first frame frames).bind ((follows_inform _).bind ?_))
    exact (follows_process frame).bind follows_conclude
  | repeated runs =>
    have few : ¬ maxRuns < max runs 1 := by
      have := held runs rfl
      have : 1 ≤ maxRuns := by decide
      omega
    refine (follows_inform _).bind ((follows_first frame frames).bind ((follows_inform _).bind ?_))
    simp only [if_neg few]
    exact (follows_processTimes frame _).bind follows_conclude
  | continuous limit => exact follows_continuous limit (frame :: frames)

end Task

end FaceDecode
