import Registrar.CommandLine.Grammar

/-!
Reading the arguments of one level. A value that stands in an argument of its own is checked only
when the next option is met or the arguments end.
-/

set_option autoImplicit false

namespace Registrar.CommandLine

/-- What the arguments of a level have set so far. -/
structure Arguments where
  /-- The options that are set, with their values. -/
  given : List (Opt × String) := []
  /-- An option that is not set yet, with its value once that is met. -/
  pending : Option (Opt × Option String) := none
  /-- Whether all further arguments are no options. -/
  trailing : Bool := false
deriving DecidableEq, Repr

namespace Arguments

def value? (arguments : Arguments) (opt : Opt) : Option String :=
  (arguments.given.find? fun entry => entry.1 == opt).map Prod.snd

def has (arguments : Arguments) (opt : Opt) : Bool := (arguments.value? opt).isSome

def expectsValue (arguments : Arguments) : Bool :=
  match arguments.pending with
  | some (_, none) => true
  | _ => false

def setValue (arguments : Arguments) (opt : Opt) (value : String) :
    Except Refusal Arguments :=
  if arguments.has opt then .error .conflict
  else if opt.accepts value then .ok { arguments with given := arguments.given ++ [(opt, value)] }
  else .error .badValue

def settle (arguments : Arguments) : Except Refusal Arguments :=
  let rest := { arguments with pending := none }
  match arguments.pending with
  | none => .ok arguments
  | some (_, none) => .error .badValue
  | some (opt, some value) => rest.setValue opt value

def setFlag (arguments : Arguments) (opt : Opt) : Except Refusal Arguments := do
  let arguments ← arguments.settle
  match opt with
  | .help => .error .help
  | .version => .error .version
  | _ =>
      if arguments.has opt && !opt.mayRepeat then .error .conflict
      else .ok { arguments with given := arguments.given ++ [(opt, "")] }

def setOption (arguments : Arguments) (opt : Opt) (attached : Option String) :
    Except Refusal Arguments := do
  let arguments ← arguments.settle
  match attached with
  | some value => arguments.setValue opt value
  | none => .ok { arguments with pending := some (opt, none) }

def readLong (arguments : Arguments) (level : Level) (text : List Char) :
    Except Refusal Arguments :=
  let name := text.takeWhile (· != '=')
  let attached :=
    match text.drop name.length with
    | [] => none
    | _ :: value => some (String.ofList value)
  match level.ofLong? (String.ofList name) with
  | none => .error .unknownArgument
  | some opt =>
      if opt.takesValue then arguments.setOption opt attached
      else if attached.isSome then .error .surplusValue
      else arguments.setFlag opt

def readLetters (arguments : Arguments) (level : Level) : List Char → Except Refusal Arguments
  | [] => .ok arguments
  | letter :: rest =>
      match level.ofLetter? letter with
      | none => .error .unknownArgument
      | some opt =>
          if opt.takesValue then
            arguments.setOption opt <|
              match rest with
              | [] => none
              | '=' :: value => some (String.ofList value)
              | value => some (String.ofList value)
          else do (← arguments.setFlag opt).readLetters level rest

def readPositional (arguments : Arguments) (level : Level) (text : String) :
    Except Refusal Arguments :=
  match level.positional with
  | some opt =>
      if arguments.has opt || arguments.pending.any (·.1 == opt) then .error .unknownArgument
      else do
        let arguments ← arguments.settle
        .ok { arguments with pending := some (opt, some text) }
  | none =>
      let isCommand := text == "help" || (CommandName.ofText? text).isSome
      if level.hasCommands && !(arguments.trailing && isCommand) then .error .unknownCommand
      else .error .unknownArgument

def readWord (arguments : Arguments) (level : Level) (text : String) : Except Refusal Arguments :=
  match arguments.pending with
  | some (opt, none) => .ok { arguments with pending := some (opt, some text) }
  | _ => arguments.readPositional level text

def read (arguments : Arguments) (level : Level) (text : String) : Except Refusal Arguments :=
  if arguments.trailing then arguments.readPositional level text
  else
    match text.toList with
    | ['-', '-'] => .ok { arguments with trailing := true }
    | '-' :: '-' :: name => arguments.readLong level name
    | '-' :: letter :: letters => arguments.readLetters level (letter :: letters)
    | _ => arguments.readWord level text

def readAll (arguments : Arguments) (level : Level) (texts : List String) :
    Except Refusal Arguments := do
  (← texts.foldlM (fun arguments text => arguments.read level text) arguments).settle

end Arguments

end Registrar.CommandLine
