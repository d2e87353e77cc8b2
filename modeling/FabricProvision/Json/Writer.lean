import FabricProvision.Json.Basic

/-!
# Writing JSON

Two forms: `compact` on one line without blanks, and `pretty` with one item per line, indented by two spaces,
where an empty array or object stays on its line.
-/

namespace FabricProvision.Json

/-- The hexadecimal digit of a number below 16. -/
private def hexDigit (n : Nat) : Char := Nat.digitChar n

/-- The form of one character inside a JSON string. -/
def escapeChar (c : Char) : String :=
  if c = '"' then "\\\""
  else if c = '\\' then "\\\\"
  else if c = '\x08' then "\\b"
  else if c = '\x0c' then "\\f"
  else if c = '\n' then "\\n"
  else if c = '\r' then "\\r"
  else if c = '\t' then "\\t"
  else if c.toNat < 0x20 then "\\u00" ++ String.ofList [hexDigit (c.toNat / 16), hexDigit (c.toNat % 16)]
  else String.singleton c

/-- `acc` followed by a JSON string. -/
def appendString (acc : String) (s : String) : String :=
  s.toList.foldl (fun out c => out ++ escapeChar c) (acc ++ "\"") ++ "\""

mutual

/-- `acc` followed by a value on one line. -/
def appendCompact (acc : String) : Json → String
  | .null => acc ++ "null"
  | .bool true => acc ++ "true"
  | .bool false => acc ++ "false"
  | .int n => acc ++ toString n
  | .real literal => acc ++ literal
  | .str s => appendString acc s
  | .arr items => appendCompactItems (acc ++ "[") "" items
  | .obj fields => appendCompactFields (acc ++ "\x7b") "" fields

/-- `acc` followed by the items of an array and its end; `sep` precedes the first of them. -/
def appendCompactItems (acc : String) (sep : String) : List Json → String
  | [] => acc ++ "]"
  | item :: rest => appendCompactItems (appendCompact (acc ++ sep) item) "," rest

/-- `acc` followed by the fields of an object and its end; `sep` precedes the first of them. -/
def appendCompactFields (acc : String) (sep : String) : List (String × Json) → String
  | [] => acc ++ "\x7d"
  | (name, value) :: rest =>
    appendCompactFields (appendCompact (appendString (acc ++ sep) name ++ ":") value) "," rest

end

/-- The value on one line. -/
def compact (j : Json) : String := appendCompact "" j

/-- A line end and the indentation of a level. -/
private def newline (level : Nat) : String := "\n" ++ String.ofList (List.replicate (2 * level) ' ')

mutual

/-- `acc` followed by a value whose inner lines are at `level + 1`. -/
def appendPretty (level : Nat) (acc : String) : Json → String
  | .arr [] => acc ++ "[]"
  | .arr (item :: rest) =>
    appendPrettyItems level (appendPretty (level + 1) (acc ++ "[" ++ newline (level + 1)) item) rest
  | .obj [] => acc ++ "\x7b\x7d"
  | .obj ((name, value) :: rest) =>
    appendPrettyFields level
      (appendPretty (level + 1) (appendString (acc ++ "\x7b" ++ newline (level + 1)) name ++ ": ") value) rest
  | .null => acc ++ "null"
  | .bool true => acc ++ "true"
  | .bool false => acc ++ "false"
  | .int n => acc ++ toString n
  | .real literal => acc ++ literal
  | .str s => appendString acc s

/-- `acc` followed by the remaining items of an array and its end. -/
def appendPrettyItems (level : Nat) (acc : String) : List Json → String
  | [] => acc ++ newline level ++ "]"
  | item :: rest =>
    appendPrettyItems level (appendPretty (level + 1) (acc ++ "," ++ newline (level + 1)) item) rest

/-- `acc` followed by the remaining fields of an object and its end. -/
def appendPrettyFields (level : Nat) (acc : String) : List (String × Json) → String
  | [] => acc ++ newline level ++ "\x7d"
  | (name, value) :: rest =>
    appendPrettyFields level
      (appendPretty (level + 1) (appendString (acc ++ "," ++ newline (level + 1)) name ++ ": ") value) rest

end

/-- The value with one item per line. -/
def pretty (j : Json) : String := appendPretty 0 "" j

end FabricProvision.Json
