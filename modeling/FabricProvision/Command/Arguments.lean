/-!
# Arguments

The command takes the path of a fabric file, the path of a state file, and three flags.  An option's value
follows it as the next word or in the same word; flags and options may be given once each.

Words are read from left to right.  An option and its value are entered only when the next known argument or the
end is reached, so an unknown word after an option is reported before anything that is wrong with the option.
-/

namespace FabricProvision.Command

/-- What a command is told to do. -/
structure Invocation where
  /-- The path of the fabric file. -/
  config : String
  /-- The path of the state file. -/
  existing : Option String := none
  force : Bool := false
  persist : Bool := false
  json : Bool := false
deriving DecidableEq, Repr

/-- Why there is nothing to do, or what else was asked for. -/
inductive ArgumentError where
  /-- A word that is no argument of the command. -/
  | unknown
  /-- An option without a value, or with an empty one. -/
  | invalidValue
  /-- An argument that was given before. -/
  | repeated
  /-- A flag with a value. -/
  | valueForFlag
  /-- No fabric file. -/
  | missing
  | help
  | version
deriving DecidableEq, Repr

/-- The options, which take values. -/
inductive PathOption where
  | config
  | existing
deriving DecidableEq, Repr

/-- The flags. -/
inductive Flag where
  | force
  | persist
  | json
deriving DecidableEq, Repr

/-- What an argument name stands for. -/
inductive Argument where
  | path (option : PathOption)
  | flag (flag : Flag)
  | help
  | version
deriving DecidableEq, Repr

/-- The argument with a long name. -/
def longArgument? : String → Option Argument
  | "config" => some (.path .config)
  | "existing" => some (.path .existing)
  | "force" => some (.flag .force)
  | "persist" => some (.flag .persist)
  | "json" => some (.flag .json)
  | "help" => some .help
  | "version" => some .version
  | _ => none

/-- The argument with a short name. -/
def shortArgument? : Char → Option Argument
  | 'c' => some (.path .config)
  | 'h' => some .help
  | 'V' => some .version
  | _ => none

/-- What was read so far. -/
structure Reading where
  config : Option String := none
  existing : Option String := none
  force : Bool := false
  persist : Bool := false
  json : Bool := false
  /-- The option that is not entered yet, with its value if that was read. -/
  pending : Option (PathOption × Option String) := none
deriving DecidableEq, Repr

namespace Reading

/-- What was given for an option. -/
def path? (r : Reading) : PathOption → Option String
  | .config => r.config
  | .existing => r.existing

/-- Whether a flag was given. -/
def hasFlag (r : Reading) : Flag → Bool
  | .force => r.force
  | .persist => r.persist
  | .json => r.json

/-- Enters an option with its value. -/
def enterPath (r : Reading) (option : PathOption) (value : String) : Except ArgumentError Reading :=
  if (r.path? option).isSome then .error .repeated
  else if value.isEmpty then .error .invalidValue
  else
    match option with
    | .config => .ok { r with config := some value }
    | .existing => .ok { r with existing := some value }

/-- Enters the pending option, if there is one. -/
def settle (r : Reading) : Except ArgumentError Reading :=
  match r.pending with
  | none => .ok r
  | some (_, none) => .error .invalidValue
  | some (option, some value) => { r with pending := none }.enterPath option value

/-- Enters a flag. -/
def enterFlag (r : Reading) (flag : Flag) : Except ArgumentError Reading := do
  let r ← r.settle
  if r.hasFlag flag then .error .repeated
  else
    match flag with
    | .force => .ok { r with force := true }
    | .persist => .ok { r with persist := true }
    | .json => .ok { r with json := true }

/-- Reads an option, with its value if that is in the same word. -/
def readPath (r : Reading) (option : PathOption) (value : Option String) : Except ArgumentError Reading := do
  let r ← r.settle
  match value with
  | some value => r.enterPath option value
  | none => .ok { r with pending := some (option, none) }

/-- Reads a word that starts with two dashes: a long name, and a value after an equals sign. -/
def readLong (r : Reading) (name : String) (value : Option String) : Except ArgumentError Reading :=
  match longArgument? name with
  | none => .error .unknown
  | some (.path option) => r.readPath option value
  | some argument =>
    if value.isSome then .error .valueForFlag
    else
      match argument with
      | .flag flag => r.enterFlag flag
      | .help => do
        let _ ← r.settle
        .error .help
      | _ => do
        let _ ← r.settle
        .error .version

/-- Reads the short names of a word that starts with one dash.  The rest of the word after an option is its
value, with or without an equals sign. -/
def readShort (r : Reading) : List Char → Except ArgumentError Reading
  | [] => .ok r
  | name :: rest =>
    match shortArgument? name with
    | none => .error .unknown
    | some (.path option) =>
      match rest with
      | [] => r.readPath option none
      | '=' :: value => r.readPath option (some (String.ofList value))
      | value => r.readPath option (some (String.ofList value))
    | some (.flag flag) => do (← r.enterFlag flag).readShort rest
    | some .help => do
      let _ ← r.settle
      .error .help
    | some .version => do
      let _ ← r.settle
      .error .version

/-- Reads a word that is no argument name: the value of an option that waits for one. -/
def readValue (r : Reading) (value : String) : Except ArgumentError Reading :=
  match r.pending with
  | some (option, none) => .ok { r with pending := some (option, some value) }
  | _ => .error .unknown

/-- Splits at the first equals sign. -/
def splitValue (cs : List Char) : String × Option String :=
  match cs.dropWhile (· != '=') with
  | [] => (String.ofList cs, none)
  | _ :: value => (String.ofList (cs.takeWhile (· != '=')), some (String.ofList value))

/-- Reads the words of a command line.  After two dashes alone no word may follow. -/
def readAll (r : Reading) : List String → Except ArgumentError Reading
  | [] => r.settle
  | word :: rest =>
    match word.toList with
    | ['-', '-'] => if rest.isEmpty then r.settle else .error .unknown
    | '-' :: '-' :: cs => do
      let (name, value) := splitValue cs
      (← r.readLong name value).readAll rest
    | '-' :: c :: cs => do (← r.readShort (c :: cs)).readAll rest
    | _ => do (← r.readValue word).readAll rest

end Reading

/-- The meaning of a command line without the name of the command. -/
def Invocation.parse (words : List String) : Except ArgumentError Invocation := do
  let r ← Reading.readAll {} words
  match r.config with
  | none => .error .missing
  | some config =>
    .ok { config, existing := r.existing, force := r.force, persist := r.persist, json := r.json }

end FabricProvision.Command
