import FabricProvision.Json.Basic

/-!
# Reading JSON

`Json.parse?` reads one value with nothing but blanks around it.  The grammar is the strict one: no trailing
commas, no leading zeros, no raw control characters in strings, and an object names each field once.
-/

namespace FabricProvision.Json

/-- The characters that may stand between tokens. -/
def isLayout (c : Char) : Bool := c = ' ' || c = '\t' || c = '\n' || c = '\r'

/-- The text from its first character that is no layout. -/
def skipLayout (cs : List Char) : List Char := cs.dropWhile isLayout

/-- The value of a hexadecimal digit. -/
private def hexValue? (c : Char) : Option Nat :=
  if '0' ≤ c ∧ c ≤ '9' then some (c.toNat - '0'.toNat)
  else if 'a' ≤ c ∧ c ≤ 'f' then some (c.toNat - 'a'.toNat + 10)
  else if 'A' ≤ c ∧ c ≤ 'F' then some (c.toNat - 'A'.toNat + 10)
  else none

/-- The value of four hexadecimal digits. -/
private def hexQuad? (a b c d : Char) : Option Nat := do
  return ((((← hexValue? a) * 16 + (← hexValue? b)) * 16 + (← hexValue? c)) * 16) + (← hexValue? d)

/-- Reads the rest of a string after its opening quotation mark; `seen` holds the characters before,
reversed. -/
def readString (seen : List Char) : List Char → Option (String × List Char)
  | '"' :: rest => some (String.ofList seen.reverse, rest)
  | '\\' :: '"' :: rest => readString ('"' :: seen) rest
  | '\\' :: '\\' :: rest => readString ('\\' :: seen) rest
  | '\\' :: '/' :: rest => readString ('/' :: seen) rest
  | '\\' :: 'b' :: rest => readString ('\x08' :: seen) rest
  | '\\' :: 'f' :: rest => readString ('\x0c' :: seen) rest
  | '\\' :: 'n' :: rest => readString ('\n' :: seen) rest
  | '\\' :: 'r' :: rest => readString ('\r' :: seen) rest
  | '\\' :: 't' :: rest => readString ('\t' :: seen) rest
  | '\\' :: 'u' :: a :: b :: c :: d :: rest =>
    match hexQuad? a b c d with
    | none => none
    | some n =>
      if 0xd800 ≤ n ∧ n ≤ 0xdbff then
        match rest with
        | '\\' :: 'u' :: a' :: b' :: c' :: d' :: rest' =>
          match hexQuad? a' b' c' d' with
          | none => none
          | some m =>
            if 0xdc00 ≤ m ∧ m ≤ 0xdfff then
              readString (Char.ofNat (0x10000 + (n - 0xd800) * 0x400 + (m - 0xdc00)) :: seen) rest'
            else none
        | _ => none
      else if 0xdc00 ≤ n ∧ n ≤ 0xdfff then none
      else readString (Char.ofNat n :: seen) rest
  | c :: rest => if c = '\\' ∨ c.toNat < 0x20 then none else readString (c :: seen) rest
  | [] => none

/-- Splits off the leading digits; `none` if there are none. -/
private def digits? (cs : List Char) : Option (List Char × List Char) :=
  match cs.takeWhile Char.isDigit with
  | [] => none
  | ds => some (ds, cs.dropWhile Char.isDigit)

/-- The value of a list of digits. -/
private def digitsValue (ds : List Char) : Nat :=
  ds.foldl (fun n d => n * 10 + (d.toNat - '0'.toNat)) 0

/-- Splits off a fraction, if one is there; fails on a point without digits. -/
private def fraction? : List Char → Option (List Char × List Char)
  | '.' :: rest => (digits? rest).map fun (ds, rest) => ('.' :: ds, rest)
  | cs => some ([], cs)

/-- Splits off an exponent, if one is there; fails on a mark without digits. -/
private def exponent? : List Char → Option (List Char × List Char)
  | c :: rest =>
    if c = 'e' ∨ c = 'E' then
      match rest with
      | '+' :: rest => (digits? rest).map fun (ds, rest) => (c :: '+' :: ds, rest)
      | '-' :: rest => (digits? rest).map fun (ds, rest) => (c :: '-' :: ds, rest)
      | rest => (digits? rest).map fun (ds, rest) => (c :: ds, rest)
    else some ([], c :: rest)
  | [] => some ([], [])

/-- Reads a number.  A fraction, an exponent or the sign of zero makes it a `real`. -/
def readNumber (cs : List Char) : Option (Json × List Char) := do
  let (negative, cs) := match cs with
    | '-' :: rest => (true, rest)
    | cs => (false, cs)
  let (ds, cs) ← digits? cs
  if ds.length > 1 ∧ ds.head? = some '0' then none
  let (fraction, cs) ← fraction? cs
  let (exponent, cs) ← exponent? cs
  if fraction.isEmpty ∧ exponent.isEmpty ∧ ¬(negative ∧ ds = ['0']) then
    let n : Int := digitsValue ds
    return (.int (if negative then -n else n), cs)
  else
    let sign := if negative then ['-'] else []
    return (.real (String.ofList (sign ++ ds ++ fraction ++ exponent)), cs)

/-- Whether no two fields have one name. -/
def distinctNames : List (String × Json) → Bool
  | [] => true
  | (name, _) :: rest => !(rest.any fun other => other.1 == name) && distinctNames rest

mutual

/-- Reads one value; `fuel` bounds the number of values begun on the way. -/
def readValue : Nat → List Char → Option (Json × List Char)
  | 0, _ => none
  | fuel + 1, cs =>
    match skipLayout cs with
    | 'n' :: 'u' :: 'l' :: 'l' :: rest => some (.null, rest)
    | 't' :: 'r' :: 'u' :: 'e' :: rest => some (.bool true, rest)
    | 'f' :: 'a' :: 'l' :: 's' :: 'e' :: rest => some (.bool false, rest)
    | '"' :: rest => (readString [] rest).map fun (s, rest) => (.str s, rest)
    | '[' :: rest =>
      match skipLayout rest with
      | ']' :: rest => some (.arr [], rest)
      | rest => (readItems fuel [] rest).map fun (items, rest) => (.arr items, rest)
    | '\x7b' :: rest =>
      match skipLayout rest with
      | '\x7d' :: rest => some (.obj [], rest)
      | rest => do
        let (fields, rest) ← readFields fuel [] rest
        if distinctNames fields then some (.obj fields, rest) else none
    | rest => readNumber rest

/-- Reads the items of an array up to its end, at least one; `seen` holds those before, reversed. -/
def readItems : Nat → List Json → List Char → Option (List Json × List Char)
  | 0, _, _ => none
  | fuel + 1, seen, cs => do
    let (item, rest) ← readValue fuel cs
    match skipLayout rest with
    | ',' :: rest => readItems fuel (item :: seen) rest
    | ']' :: rest => some ((item :: seen).reverse, rest)
    | _ => none

/-- Reads the fields of an object up to its end, at least one; `seen` holds those before, reversed. -/
def readFields : Nat → List (String × Json) → List Char → Option (List (String × Json) × List Char)
  | 0, _, _ => none
  | fuel + 1, seen, cs =>
    match skipLayout cs with
    | '"' :: rest => do
      let (name, rest) ← readString [] rest
      match skipLayout rest with
      | ':' :: rest => do
        let (value, rest) ← readValue fuel rest
        match skipLayout rest with
        | ',' :: rest => readFields fuel ((name, value) :: seen) rest
        | '\x7d' :: rest => some (((name, value) :: seen).reverse, rest)
        | _ => none
      | _ => none
    | _ => none

end

/-- The value that a text writes; `none` if it writes none. -/
def parse? (text : String) : Option Json :=
  let cs := text.toList
  match readValue (cs.length + 1) cs with
  | some (j, rest) => if (skipLayout rest).isEmpty then some j else none
  | none => none

end FabricProvision.Json
