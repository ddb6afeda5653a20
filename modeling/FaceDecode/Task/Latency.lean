import FaceDecode.Decimal.Text
import FaceDecode.Log

namespace FaceDecode

def nanosPerSecond : Nat := 1000000000

structure Duration where
  seconds : UInt64
  nanoseconds : Nat
  nanoseconds_lt : nanoseconds < nanosPerSecond

structure DurationOverflow where
deriving DecidableEq, Repr

namespace Duration

theorem mod_lt (n : Nat) : n % nanosPerSecond < nanosPerSecond := Nat.mod_lt _ (by decide)

def zero : Duration := ⟨0, 0, by decide⟩

def ofMilliseconds (n : Nat) : Duration :=
  ⟨.ofNat (n / 1000), n % 1000 * 1000000 % nanosPerSecond, mod_lt _⟩

/-- Seconds and nanoseconds together; full seconds of nanoseconds are carried over. -/
def ofParts (seconds nanoseconds : Nat) : Except DurationOverflow Duration :=
  let seconds := seconds + nanoseconds / nanosPerSecond
  if seconds < UInt64.size then .ok ⟨.ofNat seconds, nanoseconds % nanosPerSecond, mod_lt _⟩
  else .error {}

def add (a b : Duration) : Except DurationOverflow Duration :=
  ofParts (a.seconds.toNat + b.seconds.toNat) (a.nanoseconds + b.nanoseconds)

def sum (ds : List Duration) : Except DurationOverflow Duration := ds.foldlM add zero

/-- A part of a duration, rounded down. The seconds that do not divide are shared out as
nanoseconds. -/
def divide (d : Duration) (n : Nat) : Duration :=
  let rest := d.seconds.toNat % n * nanosPerSecond + d.nanoseconds % n
  ⟨.ofNat (d.seconds.toNat / n), (d.nanoseconds / n + rest / n) % nanosPerSecond, mod_lt _⟩

def exceeds (a b : Duration) : Bool :=
  b.seconds < a.seconds || b.seconds == a.seconds && b.nanoseconds < a.nanoseconds

def unit (d : Duration) : Nat × String :=
  if 0 < d.seconds then (nanosPerSecond, "s")
  else if 1000000 ≤ d.nanoseconds then (1000000, "ms")
  else if 1000 ≤ d.nanoseconds then (1000, "µs")
  else (1, "ns")

/-- A duration in its unit with two digits after the point. -/
def text (d : Duration) : String :=
  let (unit, name) := d.unit
  let hundredths := 100 * (d.seconds.toNat * nanosPerSecond + d.nanoseconds)
  Decimal.positional ⟨Decimal.roundHalfEven hundredths unit, -2⟩ ++ name

end Duration

def warmupRuns : Nat := 2

def frameBudget : Duration := .ofMilliseconds 33

def measuredRuns (runs : List Duration) : List Duration :=
  if warmupRuns < runs.length then runs.drop warmupRuns else runs

def averageLatency (runs : List Duration) : Except DurationOverflow (Option Duration) :=
  let measured := measuredRuns runs
  if 0 < measured.length ∧ measured.length < UInt32.size then
    (Duration.sum measured).map fun total ↦ some (total.divide measured.length)
  else .ok none

/-- What is told of the average; it is a warning where frames do not keep to their budget. -/
def averageLine (average : Duration) : Line :=
  if average.exceeds frameBudget then
    ⟨.warn, s!"平均推理时间: {average.text}，超出帧预算 {frameBudget.text}"⟩
  else ⟨.info, s!"平均推理时间: {average.text}"⟩

def slowFrameLine? (index : Nat) (time : Duration) : Option Line :=
  if time.exceeds frameBudget then
    some ⟨.warn, s!"第 {index} 帧耗时 {time.text}，超出帧预算 {frameBudget.text}"⟩
  else none

end FaceDecode
