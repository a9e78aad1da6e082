import Chip8.CommandLine.Word

/-!
# Arguments

What the command line asks for: help, or a run of a program with its settings. Flags count from left to right,
the last of a kind wins, and the first plain word that is no value is the program. Help is given as soon as
its flag is met; what is missing or left over is judged at the end.
-/

namespace Chip8.CommandLine

structure Arguments where
  programPath : String
  debug : Bool := false
  configPath : Option String := none
  /-- The least level of notices, unless its flag came without one. -/
  level : Option Level := some .info
  deriving DecidableEq, Repr

/-- What the command line asks for. -/
inductive Request where
  | help
  | run (arguments : Arguments)
  deriving DecidableEq, Repr

structure Draft where
  program : Option String := none
  debug : Bool := false
  configPath : Option String := none
  level : Option Level := some .info
  /-- The arguments that are left over, the first first. -/
  extras : List String := []

/-- Why reading ends before the last word. -/
inductive Stop where
  | help
  | fault (fault : Fault)

namespace Draft

abbrev Action := EStateM Stop Draft

def leave (text : String) : Action Unit := modify fun d => { d with extras := d.extras ++ [text] }

/-- Applies a flag that stands alone. -/
def apply : Flag → Action Unit
  | .help => throw .help
  | .debug => modify fun d => { d with debug := true }
  | flag => throw (.fault (.valueMissing flag))

/-- Applies a flag with its value. The separator as a value is no value. -/
def applyValue (flag : Flag) (value : String) : Action Unit :=
  let value? := if value = separatorText then none else some value
  match flag, value? with
  | .config, _ => modify fun d => { d with configPath := value? }
  | .logLevel, none => modify fun d => { d with level := none }
  | .logLevel, some word =>
    match Level.names.lookup word with
    | some level => modify fun d => { d with level := some level }
    | none => throw (.fault (.notLevel word))
  | flag, _ => throw (.fault (.valueUnused flag value))

/-- The flags that a flag and the letters joined to it are: every letter must be one. -/
def flagsOf (first : Flag) : List Char → Except Fault (List Flag)
  | [] => .ok [first]
  | c :: more =>
    match Flag.ofLetter? c with
    | some next => (first :: ·) <$> flagsOf next more
    | none => .error (.valueUnused first (String.ofList (c :: more)))

/-- Applies a flag of one letter and what is joined to it: its value if it takes one, else flags, which are all
read before any is applied. -/
def applyJoined (flag : Flag) (more : List Char) : Action Unit := do
  if flag.takesValue || more.isEmpty then applyValue flag (String.ofList more)
  else
    match flagsOf flag more with
    | .error fault => throw (.fault fault)
    | .ok flags => for flag in flags do apply flag

/-- Takes a plain word: the first is the program, any other is left over. -/
def takePlain (text : String) : Action Unit := do
  if (← get).program.isNone then modify fun d => { d with program := some text } else leave text

/-- Reads words. The separator counts as left over unless it stands beside the program. -/
def read : List Word → Action Unit
  | [] => return
  | .flag f :: rest =>
    if f.takesValue then
      match rest with
      | .plain value :: rest => do
        applyValue f value
        read rest
      | _ => throw (.fault (.valueMissing f))
    else do
      apply f
      read rest
  | .valued f value :: rest => do
    applyValue f value
    read rest
  | .joined f more :: rest => do
    applyJoined f more
    read rest
  | .unknown text :: rest => do
    leave text
    read rest
  | .plain text :: .separator :: rest => do
    let isProgram := (← get).program.isNone
    takePlain text
    if !isProgram then leave separatorText
    read rest
  | .plain text :: rest => do
    takePlain text
    read rest
  | .separator :: rest => do
    if (← get).program.isSome || rest.isEmpty then leave separatorText
    read rest

end Draft

def Request.ofArguments (arguments : List String) : Except Fault Request := do
  match Draft.read (← Word.ofArguments arguments) {} with
  | .error .help _ => return .help
  | .error (.fault fault) _ => throw fault
  | .ok _ d =>
    match d.program with
    | none => throw .programMissing
    | some programPath =>
      if d.extras.isEmpty then
        return .run { programPath, debug := d.debug, configPath := d.configPath, level := d.level }
      else throw (.unrecognized d.extras)

end Chip8.CommandLine
