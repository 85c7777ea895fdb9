import DesignTokens.Text.Split

/-!
# Arguments

The command line has levels: the program, the commands `run` and `templates`, and `templates list`.
A word that names a command leads one level down; options take effect where they stand. Arguments
are read from left to right, and the first fault ends the reading. The value of an option in an
argument of its own is checked when the next option is read or at the end.
-/

set_option autoImplicit false

namespace DesignTokens.CommandLine

/-- Where on the command line an argument stands. -/
inductive Level where
  | program
  | run
  | templates
  | templatesList
  | help
deriving DecidableEq, Repr

/-- An option. -/
inductive Switch where
  | config
  | token
  | verbose
  | quiet
  | help
  | version
deriving DecidableEq, Repr

/-- Why the arguments are not carried out. The first two are requests, the others mistakes. -/
inductive Refusal where
  | help (level : Level)
  | version
  /-- Arguments exclude each other, or one is repeated that may stand only once. -/
  | conflict
  | unknownCommand
  | unknownArgument
  /-- The value of an option is missing or empty. -/
  | unusableValue
  /-- A value for an option that takes none. -/
  | surplusValue
deriving DecidableEq, Repr

namespace Level

/-- The commands of a level. -/
def commands : Level → List (String × Level)
  | .program => [("run", .run), ("templates", .templates), ("help", .help)]
  | .templates => [("list", .templatesList), ("help", .help)]
  | .run | .templatesList | .help => []

/-- Whether options keep commands from being recognized. -/
def isExclusive (level : Level) : Bool :=
  level = .program

/-- The options of a level with their letters and words. -/
def switches : Level → List (Char × String × Switch)
  | .program => paths ++ common ++ [('V', "version", .version)]
  | .run => paths ++ common
  | .templates | .templatesList => common
  | .help => []
where
  /-- The options that name files. -/
  paths : List (Char × String × Switch) :=
    [('c', "config", .config), ('t', "token", .token)]
  /-- The options of every level. -/
  common : List (Char × String × Switch) :=
    [('v', "verbose", .verbose), ('q', "quiet", .quiet), ('h', "help", .help)]

/-- The option of a letter. -/
def ofLetter? (level : Level) (letter : Char) : Option Switch :=
  (level.switches.find? (·.1 = letter)).map (·.2.2)

/-- The option of a word. -/
def ofWord? (level : Level) (word : String) : Option Switch :=
  (level.switches.find? (·.2.1 = word)).map (·.2.2)

end Level

namespace Switch

/-- Whether an option takes a value. -/
def takesValue : Switch → Bool
  | .config | .token => true
  | .verbose | .quiet | .help | .version => false

end Switch

/-- What has been given on one level. -/
structure Given where
  configs : List String
  token : Option String
  verbose : Bool
  quiet : Bool
  /-- The last option that takes its value from an argument of its own, with that value once it has
  come. -/
  pending : Option (Switch × Option String)
  /-- Whether any option was given. -/
  any : Bool
  /-- Whether `--` was given. -/
  trailing : Bool
deriving DecidableEq, Repr

namespace Given

/-- Nothing. -/
def nothing : Given :=
  ⟨[], none, false, false, none, false, false⟩

/-- Whether the value of an option is still to come. -/
def awaitsValue (given : Given) : Bool :=
  given.pending.any (·.2.isNone)

/-- Takes the value of an option. -/
def takeValue (given : Given) (switch : Switch) (value : String) : Except Refusal Given :=
  if switch = .token && given.token.isSome then .error .conflict
  else if value.isEmpty then .error .unusableValue
  else if switch = .token then .ok { given with token := some value }
  else .ok { given with configs := given.configs ++ [value] }

/-- Takes the value that came in an argument of its own. -/
def settle (given : Given) : Except Refusal Given :=
  match given.pending with
  | none => .ok given
  | some (_, none) => .error .unusableValue
  | some (switch, some value) => { given with pending := none }.takeValue switch value

/-- Takes an option without a value. -/
def takeFlag (level : Level) (given : Given) (switch : Switch) : Except Refusal Given := do
  let given ← given.settle
  match switch with
  | .verbose =>
    if given.verbose then throw .conflict else return { given with verbose := true, any := true }
  | .quiet =>
    if given.quiet then throw .conflict else return { given with quiet := true, any := true }
  | .version => throw .version
  | _ => throw (.help level)

/-- Takes an option with a value, which comes with the next argument unless it is attached. -/
def takeOption (given : Given) (switch : Switch) (attached : Option String) :
    Except Refusal Given := do
  let given := { (← given.settle) with any := true }
  match attached with
  | some value => given.takeValue switch value
  | none => return { given with pending := some (switch, none) }

/-- Takes an option that is written as a word, perhaps with a value behind `=`. -/
def takeWord (level : Level) (given : Given) (text : List Char) : Except Refusal Given := do
  let word := text.takeWhile (· ≠ '=')
  let attached := (text.dropWhile (· ≠ '=')).tail?.map String.ofList
  match level.ofWord? (String.ofList word) with
  | none => throw .unknownArgument
  | some switch =>
    if switch.takesValue then given.takeOption switch attached
    else if attached.isSome then throw .surplusValue
    else given.takeFlag level switch

/-- The value that stands behind the letter of an option. -/
def attachedValue? : List Char → Option String
  | [] => none
  | '=' :: rest => some (String.ofList rest)
  | rest => some (String.ofList rest)

/-- Takes options that are written as letters. -/
def takeLetters (level : Level) (given : Given) : List Char → Except Refusal Given
  | [] => .ok given
  | letter :: rest =>
    match level.ofLetter? letter with
    | none => .error .unknownArgument
    | some switch =>
      -- what follows such a letter is its value, not further letters
      if switch.takesValue then given.takeOption switch (attachedValue? rest)
      else
        match given.takeFlag level switch with
        | .ok given => takeLetters level given rest
        | .error refusal => .error refusal

/-- Whether a word may name a command now. -/
def admitsCommand (level : Level) (given : Given) : Bool :=
  !(level.isExclusive && given.any)

/-- Refuses a word that has no meaning. -/
def refuseWord (level : Level) (given : Given) (word : String) : Refusal :=
  if given.trailing && given.admitsCommand level && (level.commands.lookup word).isSome then
    .unknownArgument
  else if level.commands.isEmpty then .unknownArgument
  else if given.admitsCommand level then .unknownCommand
  else .conflict

/-- Takes an argument that does not name a command. -/
def take (level : Level) (given : Given) (argument : String) : Except Refusal Given :=
  if given.trailing then .error (given.refuseWord level argument)
  else
    match argument.toList with
    | ['-', '-'] => .ok { given with trailing := true }
    | '-' :: '-' :: text => given.takeWord level text
    | '-' :: letter :: rest => given.takeLetters level (letter :: rest)
    | _ =>
      match given.pending with
      | some (switch, none) => .ok { given with pending := some (switch, some argument) }
      | _ => .error (given.refuseWord level argument)

/-- The level that an argument leads to. -/
def command? (level : Level) (given : Given) (argument : String) : Option Level :=
  if given.trailing || given.awaitsValue || !given.admitsCommand level then none
  else level.commands.lookup argument

/-- Checks a level whose arguments are all read. -/
def finish (given : Given) : Except Refusal Given := do
  let given ← given.settle
  if given.verbose && given.quiet then throw .conflict
  return given

end Given

/-- The level that the words behind `help` lead to. -/
def helpLevel (level : Level) : List String → Except Refusal Level
  | [] => .ok level
  | word :: rest =>
    match level.commands.lookup word with
    | some inner => helpLevel inner rest
    | none => .error .unknownCommand

/-- Reads the arguments of a level and those of the levels below it. Gives the lowest level with
what was given there; how much to log may be told on any level. -/
def readLevel (level : Level) (given : Given) : List String → Except Refusal (Level × Given)
  | [] => do return (level, ← given.finish)
  | argument :: rest =>
    match given.command? level argument with
    | some .help =>
      match helpLevel level rest with
      | .ok shown => .error (.help shown)
      | .error refusal => .error refusal
    | some inner => do
      -- the inner level is checked before the outer one
      let (lowest, found) ← readLevel inner .nothing rest
      let outer ← given.finish
      return (lowest, { found with
        verbose := found.verbose || outer.verbose
        quiet := found.quiet || outer.quiet })
    | none =>
      match given.take level argument with
      | .ok given => readLevel level given rest
      | .error refusal => .error refusal

end DesignTokens.CommandLine
