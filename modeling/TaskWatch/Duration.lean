/-
# Lengths of time

The clock of the console counts whole milliseconds: a moment is the number of milliseconds
since some start, and all timers are set in them.  Both are plain natural numbers.  A
`Duration` is finer, whole nanoseconds; it is what a length of time is measured in before it
is shown as seconds.
-/

namespace TaskWatch

/-- **A length of time**, in nanoseconds. -/
structure Duration where
  nanos : Nat
  deriving Repr, DecidableEq, Inhabited

namespace Duration

def ofMillis (ms : Nat) : Duration := ⟨ms * 1000000⟩

/-- The length of some seconds and nanoseconds. -/
def ofParts (seconds nanos : Nat) : Duration := ⟨seconds * 1000000000 + nanos⟩

/-- The whole seconds in a length of time. -/
def seconds (d : Duration) : Nat := d.nanos / 1000000000

/-- What is left beside the whole seconds, in nanoseconds. -/
def subsecond (d : Duration) : Nat := d.nanos % 1000000000

/-- **Seconds as a double**: the whole seconds plus the fraction, each rounded. -/
def toFloat (d : Duration) : Float :=
  Float.ofNat d.seconds + Float.ofNat d.subsecond / 1000000000.0

theorem seconds_ofMillis (ms : Nat) : (ofMillis ms).seconds = ms / 1000 := by
  unfold ofMillis seconds
  simp only
  omega

end Duration

end TaskWatch
