/-
# Duration — lengths of time

A duration counts nanoseconds. Its text uses the largest unit among seconds,
milliseconds, microseconds and nanoseconds of which it holds at least one,
with a decimal fraction that ends in no zero: `1.5s`, `5ms`, `1.001µs`, `0ns`.
-/

namespace ModuleOpens

set_option autoImplicit false

/-- A length of time, in nanoseconds. -/
structure Duration where
  nanoseconds : Nat
  deriving DecidableEq, Repr

namespace Duration

def nanosecondsPerSecond : Nat := 1000000000

def ofSeconds (seconds : Nat) : Duration :=
  ⟨seconds * nanosecondsPerSecond⟩

def ofMilliseconds (milliseconds : Nat) : Duration :=
  ⟨milliseconds * 1000000⟩

/-- The longest duration: the largest 64-bit count of seconds and a nanosecond
less than one more. -/
def longest : Duration :=
  ⟨UInt64.size * nanosecondsPerSecond - 1⟩

def seconds (duration : Duration) : Nat :=
  duration.nanoseconds / nanosecondsPerSecond

/-- The nanoseconds beyond the whole seconds. -/
def subsecond (duration : Duration) : Nat :=
  duration.nanoseconds % nanosecondsPerSecond

def milliseconds (duration : Duration) : Nat :=
  duration.nanoseconds / 1000000

/-- The `places` decimal digits of `rest`, without the zeros at the end. -/
def fraction (places rest : Nat) : List Char :=
  let digits := Nat.toDigits 10 rest
  let padded := List.replicate (places - digits.length) '0' ++ digits
  (padded.reverse.dropWhile (· == '0')).reverse

/-- `count` in a unit of `10 ^ places` nanoseconds named `unit`. -/
def inUnit (count places : Nat) (unit : String) : String :=
  let digits := fraction places (count % Nat.pow 10 places)
  let whole := toString (count / Nat.pow 10 places)
  if digits.isEmpty then whole ++ unit else whole ++ "." ++ String.ofList digits ++ unit

def text (duration : Duration) : String :=
  let count := duration.nanoseconds
  if Nat.pow 10 9 ≤ count then inUnit count 9 "s"
  else if Nat.pow 10 6 ≤ count then inUnit count 6 "ms"
  else if Nat.pow 10 3 ≤ count then inUnit count 3 "µs"
  else inUnit count 0 "ns"

end Duration

end ModuleOpens
