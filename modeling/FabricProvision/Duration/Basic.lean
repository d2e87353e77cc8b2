/-!
# Durations

A duration is a number of nanoseconds.  It has two written forms: `worded` lists its parts from years to
nanoseconds, as files hold it, and `decimal` is one number with the largest unit that gives a whole part, as
messages show it.
-/

namespace FabricProvision

/-- A span of time. -/
structure Duration where
  nanos : Nat
deriving DecidableEq, Repr, Inhabited

namespace Duration

/-- The units of time.  A month and a year are their mean lengths. -/
inductive Unit where
  | nanosecond
  | microsecond
  | millisecond
  | second
  | minute
  | hour
  | day
  | week
  | month
  | year
deriving DecidableEq, Repr

/-- The number of nanoseconds in a second. -/
def secondNanos : Nat := 1000000000

/-- The number of nanoseconds in a unit. -/
def Unit.nanos : Unit → Nat
  | nanosecond => 1
  | microsecond => 1000
  | millisecond => 1000000
  | second => secondNanos
  | minute => 60 * secondNanos
  | hour => 3600 * secondNanos
  | day => 86400 * secondNanos
  | week => 604800 * secondNanos
  | month => 2630016 * secondNanos
  | year => 31557600 * secondNanos

/-- A whole number of seconds. -/
def ofSeconds (n : Nat) : Duration := ⟨n * secondNanos⟩

/-- A whole number of milliseconds. -/
def ofMillis (n : Nat) : Duration := ⟨n * Unit.nanos .millisecond⟩

instance : LT Duration := ⟨fun a b => a.nanos < b.nanos⟩
instance (a b : Duration) : Decidable (a < b) := inferInstanceAs (Decidable (a.nanos < b.nanos))

/-- The number of whole milliseconds that cover the duration. -/
def ceilMillis (d : Duration) : Nat :=
  (d.nanos + (Unit.nanos .millisecond - 1)) / Unit.nanos .millisecond

/-! ### Parts -/

/-- The units that a duration is split into, with the text that follows the number of each and whether more than
one of it is a plural. -/
def partUnits : List (Unit × String × Bool) :=
  [(.year, "year", true), (.month, "month", true), (.day, "day", true), (.hour, "h", false),
    (.minute, "m", false), (.second, "s", false), (.millisecond, "ms", false), (.microsecond, "us", false),
    (.nanosecond, "ns", false)]

/-- The nonzero parts of a number of nanoseconds in the given units. -/
def parts (nanos : Nat) : List (Unit × String × Bool) → List String
  | [] => []
  | (unit, name, plural) :: rest =>
    let count := nanos / unit.nanos
    let later := parts (nanos % unit.nanos) rest
    if count = 0 then later
    else (toString count ++ name ++ (if plural && count > 1 then "s" else "")) :: later

/-- The parts of the duration, as in `1year 2days 3h 4ms`. -/
def worded (d : Duration) : String :=
  match parts d.nanos partUnits with
  | [] => "0s"
  | ps => " ".intercalate ps

/-! ### One number -/

/-- The digits of a fraction `n / unit` without zeros at their end; `unit` is a power of ten. -/
def fractionDigits : Nat → Nat → Nat → List Char
  | 0, _, _ => []
  | fuel + 1, n, unit =>
    if n = 0 then []
    else Nat.digitChar (n / (unit / 10)) :: fractionDigits fuel (n % (unit / 10)) (unit / 10)

/-- `nanos` as a number of `unit`s. -/
def inUnit (nanos : Nat) (unit : Unit) (name : String) : String :=
  let digits := fractionDigits 9 (nanos % unit.nanos) unit.nanos
  let fraction := if digits.isEmpty then "" else "." ++ String.ofList digits
  toString (nanos / unit.nanos) ++ fraction ++ name

/-- The duration as one number, as in `1.5ms`. -/
def decimal (d : Duration) : String :=
  if Unit.nanos .second ≤ d.nanos then inUnit d.nanos .second "s"
  else if Unit.nanos .millisecond ≤ d.nanos then inUnit d.nanos .millisecond "ms"
  else if Unit.nanos .microsecond ≤ d.nanos then inUnit d.nanos .microsecond "µs"
  else inUnit d.nanos .nanosecond "ns"

end Duration

end FabricProvision
