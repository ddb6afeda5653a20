namespace FaceDecode

inductive Level where
  | error
  | warn
  | info
  | debug
deriving DecidableEq, Repr

def Level.name : Level → String
  | .error => "ERROR"
  | .warn => "WARN"
  | .info => "INFO"
  | .debug => "DEBUG"

def Level.isShown : Level → Bool
  | .debug => false
  | _ => true

structure Line where
  level : Level
  text : String
deriving DecidableEq, Repr

def Line.shown (l : Line) : String := l.level.name ++ " " ++ l.text

/-- The characters that could steer a terminal are written out: escape, bell, backspace, form feed and
delete, and those of the second control range. -/
def escaped (c : Char) : List Char :=
  match c.toNat with
  | 0x1b => "\\x1b".toList
  | 0x07 => "\\x07".toList
  | 0x08 => "\\x08".toList
  | 0x0c => "\\x0c".toList
  | 0x7f => "\\x7f".toList
  | n =>
    if 0x80 ≤ n ∧ n < 0xa0 then "\\u\x7b".toList ++ Nat.toDigits 16 n ++ ['\x7d'] else [c]

def Line.onTerminal (l : Line) : String := .ofList (l.shown.toList.flatMap escaped)

abbrev Log := Array Line

/-- A step that changes a state and may fail; the change stays when it fails. -/
abbrev Attempt (σ ε α : Type) := ExceptT ε (StateM σ) α

abbrev Logging (ε α : Type) := Attempt Log ε α

namespace Logging

variable {ε : Type}

def write (level : Level) (text : String) : Logging ε Unit :=
  modify (·.push ⟨level, text⟩)

end Logging

def Attempt.ofExcept {σ ε α : Type} (r : Except ε α) : Attempt σ ε α := fun s ↦ (r, s)

def Attempt.mapError {σ ε ε' α : Type} (f : ε → ε') (step : Attempt σ ε α) : Attempt σ ε' α :=
  fun s ↦ let (r, s) := step s; (r.mapError f, s)

end FaceDecode
