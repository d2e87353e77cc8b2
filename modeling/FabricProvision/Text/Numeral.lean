/-!
# Unsigned decimal numerals

Reading of a number below a bound: ASCII digits, after at most one plus sign, any number of leading zeros.
Each way to fail is a cause with its own wording.
-/

namespace FabricProvision.Text

/-- Why a text is no number below the bound. -/
inductive NumeralError where
  | empty
  | invalidDigit
  | tooLarge
deriving DecidableEq, Repr

/-- The wording of a failure. -/
def NumeralError.message : NumeralError → String
  | .empty => "cannot parse integer from empty string"
  | .invalidDigit => "invalid digit found in string"
  | .tooLarge => "number too large to fit in target type"

/-- The value of an ASCII digit. -/
def digit? (c : Char) : Option Nat :=
  if '0' ≤ c ∧ c ≤ '9' then some (c.toNat - '0'.toNat) else none

/-- Reads the remaining digits after those that gave `acc`; the first character at fault decides the error. -/
def readDigits (bound : Nat) (acc : Nat) : List Char → Except NumeralError Nat
  | [] => .ok acc
  | c :: rest =>
    match digit? c with
    | none => .error .invalidDigit
    | some d => if acc * 10 + d < bound then readDigits bound (acc * 10 + d) rest else .error .tooLarge

/-- Reads a number below `bound`.  A plus sign may precede the digits. -/
def readNumeral (bound : Nat) : List Char → Except NumeralError Nat
  | [] => .error .empty
  | ['+'] => .error .invalidDigit
  | '+' :: digits => readDigits bound 0 digits
  | digits => readDigits bound 0 digits

/-- Reads a 32-bit number. -/
def readUInt32 (cs : List Char) : Except NumeralError UInt32 :=
  (readNumeral UInt32.size cs).map UInt32.ofNat

end FabricProvision.Text
