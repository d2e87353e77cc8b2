import FabricProvision.Json.Reader

/-!
# Texts of files

A file holds a JSON value as printable text.  A line break inside a quoted text is folded: the blanks around it
are dropped, a single break reads as a space, and of several breaks all but the first are kept.
-/

namespace FabricProvision.File

/-- The characters that may stand in a file. -/
def isPrintable (c : Char) : Bool :=
  let n := c.toNat
  n == 0x09 || n == 0x0a || n == 0x0d || (0x20 ≤ n && n ≤ 0x7e) || n == 0x85 || (0xa0 ≤ n && n ≤ 0xfffd) ||
    0x10000 ≤ n

/-- The line breaks that fold to a space or to a line feed. -/
def isSoftBreak (c : Char) : Bool := c = '\n' || c = '\r' || c = '\u0085'

/-- The line breaks that stay what they are. -/
def isHardBreak (c : Char) : Bool := c = '\u2028' || c = '\u2029'

/-- What a run of blanks and line breaks reads as. -/
def foldRun (run : List Char) : List Char :=
  match run.filter fun c => isSoftBreak c || isHardBreak c with
  | [] => run
  | first :: later =>
    let kept := later.map fun c => if isSoftBreak c then '\n' else c
    if isHardBreak first then first :: kept
    else if kept.isEmpty then [' ']
    else kept

/-- Whether the character belongs to a run of blanks and line breaks. -/
def isRunChar (c : Char) : Bool := c = ' ' || c = '\t' || isSoftBreak c || isHardBreak c

/-- Folds the line breaks of a text; `run` holds the blanks and breaks just before it, reversed, and `seen` what
was folded before those, reversed. -/
def foldBreaks (seen run : List Char) : List Char → List Char
  | [] => ((foldRun run.reverse).reverse ++ seen).reverse
  | c :: rest =>
    if isRunChar c then foldBreaks seen (c :: run) rest
    else foldBreaks (c :: ((foldRun run.reverse).reverse ++ seen)) [] rest

/-- The value that a file holds; `none` if it is no such file. -/
def value? (text : String) : Option Json :=
  let cs := text.toList
  if cs.all isPrintable then Json.parse? (String.ofList (foldBreaks [] [] cs)) else none

end FabricProvision.File
