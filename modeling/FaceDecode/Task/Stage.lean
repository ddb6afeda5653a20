import FaceDecode.Log

namespace FaceDecode

/-- Frames yet to be read. A read may find that there is no frame after all. -/
abbrev Feed (σ φ : Type) := List (StateM σ (Option φ))

/-- Reads up to the next frame; what is left is still unread. -/
def Feed.next {σ φ : Type} : Feed σ φ → StateM σ (Option φ × Feed σ φ)
  | [] => pure (none, [])
  | read :: rest => do
    match ← read with
    | some frame => return (some frame, rest)
    | none => Feed.next rest

structure Stage (σ φ δ μ ρ : Type) where
  note : Line → StateM σ Unit
  infer : φ → Attempt σ μ δ
  render : φ → δ → Attempt σ ρ Unit
  finish : Attempt σ ρ Unit

inductive Event (φ δ : Type) where
  | pulled (frame : φ)
  | rendered (frame : φ) (result : δ)
  | finished
deriving DecidableEq, Repr

structure Recording (φ δ : Type) where
  events : Array (Event φ δ) := #[]
  log : Log := #[]

namespace Recording

variable {φ δ μ ρ : Type}

def record (e : Event φ δ) (r : Recording φ δ) : Recording φ δ :=
  { r with events := r.events.push e }

def feed (frames : List φ) : Feed (Recording φ δ) φ :=
  frames.map fun frame ↦ do
    modify (record (.pulled frame))
    return some frame

def call (verdict : Array (Event φ δ) → Option ρ) (e : Event φ δ) :
    Attempt (Recording φ δ) ρ Unit := do
  modify (record e)
  match verdict (← get).events with
  | none => return ()
  | some failure => throw failure

/-- The stage with a given model whose showing may fail at any time. -/
def stage (infer : φ → Except μ δ) (verdict : Array (Event φ δ) → Option ρ) :
    Stage (Recording φ δ) φ δ μ ρ where
  note line := modify fun r ↦ { r with log := r.log.push line }
  infer frame := Attempt.ofExcept (infer frame)
  render frame result := call verdict (.rendered frame result)
  finish := call verdict .finished

end Recording

end FaceDecode
