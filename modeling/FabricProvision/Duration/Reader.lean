import FabricProvision.Duration.Basic
import FabricProvision.Json.Record
import FabricProvision.Text.Numeral
import FabricProvision.Text.Trim

/-!
# Reading durations

A duration is written as a sum of numbers with units, such as `1h 30m` or `1.5s`; only zero may stand without a
unit.  Blanks may stand around and inside numbers.  A fraction has to come out even: in nanoseconds for units up
to minutes, in seconds for longer ones.  Every number on the way has to fit into 64 bits.
-/

namespace FabricProvision.Duration

/-- The units and their names. -/
def unitNames : List (Unit × List String) :=
  [(.nanosecond, ["nanos", "nsec", "ns"]), (.microsecond, ["usec", "us", "µs"]),
    (.millisecond, ["millis", "msec", "ms"]), (.second, ["seconds", "second", "secs", "sec", "s"]),
    (.minute, ["minutes", "minute", "mins", "min", "m"]), (.hour, ["hours", "hour", "hrs", "hr", "h"]),
    (.day, ["days", "day", "d"]), (.week, ["weeks", "week", "wks", "wk", "w"]),
    (.month, ["months", "month", "M"]), (.year, ["years", "year", "yrs", "yr", "y"])]

/-- The unit of that name. -/
def unitNamed? (name : String) : Option Unit :=
  (unitNames.find? fun (_, names) => names.contains name).map (·.1)

/-- What a fraction of the unit has to come out in. -/
def grain? : Unit → Option Nat
  | .nanosecond => none
  | .microsecond | .millisecond | .second | .minute => some 1
  | .hour | .day | .week | .month | .year => some secondNanos

/-- What the whole part of the unit is counted in. -/
def wholeGrain : Unit → Nat
  | .nanosecond | .microsecond | .millisecond => 1
  | _ => secondNanos

/-- A number, if it fits into 64 bits. -/
def fitting? (n : Nat) : Option Nat := if n < UInt64.size then some n else none

/-- Whether the character can be part of a unit's name. -/
def isUnitChar (c : Char) : Bool := ('a' ≤ c && c ≤ 'z') || ('A' ≤ c && c ≤ 'Z') || c = 'µ'

/-- Splits off digits and the blanks among and after them; the digits are given without the blanks. -/
def spanDigits (cs : List Char) : List Nat × List Char :=
  let inNumber c := Text.isBlank c || (Text.digit? c).isSome
  ((cs.takeWhile inNumber).filterMap Text.digit?, cs.dropWhile inNumber)

/-- The value of digits, if it fits. -/
def value? (digits : List Nat) : Option Nat := fitting? (digits.foldl (fun n d => n * 10 + d) 0)

/-- Splits off a fraction, if one is there, as its numerator and its denominator. -/
def fraction? : List Char → Option (Option (Nat × Nat) × List Char)
  | '.' :: cs =>
    match spanDigits cs with
    | ([], _) => none
    | (digits, rest) => do
      let numerator ← value? digits
      let denominator ← fitting? (Nat.pow 10 digits.length)
      return (some (numerator, denominator), rest)
  | cs => some (none, cs)

/-- A whole number of a unit, counted in `wholeGrain unit`. -/
def wholeGrains? (n : Nat) (unit : Unit) : Option Nat := fitting? (n * (unit.nanos / wholeGrain unit))

/-- A fraction of a unit, counted in `grain`. -/
def fractionGrains? (numerator denominator grain : Nat) (unit : Unit) : Option Nat := do
  let scaled ← fitting? (numerator * (unit.nanos / grain))
  if scaled % denominator = 0 then some (scaled / denominator) else none

/-- Adds `count` times `grain` to a total, if the seconds fit, and so does the part that is counted in
nanoseconds. -/
def add? (total count grain : Nat) : Option Nat := do
  if grain = 1 then let _ ← fitting? (total % secondNanos + count)
  let sum := total + count * grain
  if sum / secondNanos < UInt64.size then some sum else none

/-- Adds a fraction of a unit to a total. -/
def addFraction? (total numerator denominator : Nat) (unit : Unit) : Option Nat := do
  let grain ← grain? unit
  add? total (← fractionGrains? numerator denominator grain unit) grain

/-- Adds the numbers with units in a text to `total`; `fuel` bounds how many there are. -/
def readParts : Nat → Nat → List Char → Option Nat
  | 0, _, _ => none
  | fuel + 1, total, cs =>
    match cs.dropWhile Text.isBlank with
    | [] => some total
    | c :: cs => do
      let _ ← Text.digit? c
      let (digits, rest) := spanDigits (c :: cs)
      let n ← value? digits
      let (fraction, rest) ← fraction? rest
      let unit ← unitNamed? (String.ofList (rest.takeWhile isUnitChar))
      let rest := rest.dropWhile isUnitChar
      if rest.head?.any fun c => !Text.isBlank c && (Text.digit? c).isNone then none
      let total ← add? total (← wholeGrains? n unit) (wholeGrain unit)
      let total ← match fraction with
        | none => some total
        | some (numerator, denominator) => addFraction? total numerator denominator unit
      readParts fuel total rest

/-- The duration that a text writes. -/
def parse? (text : String) : Option Duration :=
  let cs := text.toList
  if cs = ['0'] then some ⟨0⟩
  else if cs.all Text.isBlank then none
  else (readParts (cs.length + 1) 0 cs).map Duration.mk

instance : Json.Encode Duration := ⟨fun d => .str d.worded⟩

instance : Json.Decode Duration where
  decode?
    | .str text => parse? text
    | _ => none

end FabricProvision.Duration
