import Registrar.Path

/-!
The words of the command line: commands, options, and the values that options take.
-/

set_option autoImplicit false

namespace Registrar.CommandLine

inductive Refusal where
  | noArguments
  | help
  | version
  | missingCommand
  | unknownCommand
  | unknownArgument
  /-- An option lacks its value, or the value is none that it takes. -/
  | badValue
  /-- A value was given to an option that takes none. -/
  | surplusValue
  /-- An option was given twice, or two that exclude each other were given. -/
  | conflict
  | missingArgument
deriving DecidableEq, Repr

def Refusal.exitCode : Refusal → Nat
  | .help => 0
  | .version => 0
  | _ => 2

def Refusal.message : Refusal → String
  | .noArguments | .help => "usage: jsonaot [-C PATH] [-v] setup|run|list|completions [options]"
  | .version => "jsonaot"
  | .missingCommand => "error: a subcommand is required"
  | .unknownCommand => "error: unrecognized subcommand"
  | .unknownArgument => "error: unexpected argument"
  | .badValue => "error: a value is missing or not allowed"
  | .surplusValue => "error: a value was given to a flag"
  | .conflict => "error: arguments cannot be used together"
  | .missingArgument => "error: a required argument is missing"

inductive Opt where
  | help
  | version
  | config
  | verbose
  | entryPoint
  | artifact
  | withConfig
  | append
  | overwrite
  | root
  | dryRun
  | format
  /-- The shell, which is given without the name of an option. -/
  | shell
deriving DecidableEq, Repr

namespace Opt

def long? : Opt → Option String
  | .help => some "help"
  | .version => some "version"
  | .config => some "config"
  | .verbose => some "verbose"
  | .entryPoint => some "entry-point"
  | .artifact => some "artifact"
  | .withConfig => some "with-config"
  | .append => some "append"
  | .overwrite => some "overwrite"
  | .root => some "root"
  | .dryRun => some "dry-run"
  | .format => some "format"
  | .shell => none

def letter? : Opt → Option Char
  | .help => some 'h'
  | .version => some 'V'
  | .config => some 'C'
  | .verbose => some 'v'
  | .entryPoint => some 's'
  | .append => some 'a'
  | .overwrite => some 'o'
  | _ => none

def shells : List String := ["bash", "elvish", "fish", "powershell", "zsh"]

def formats : List String := ["text", "json"]

def takesValue : Opt → Bool
  | .config | .artifact | .root | .format | .shell => true
  | _ => false

def accepts : Opt → String → Bool
  | .shell, value => shells.contains value
  | .format, value => formats.contains value
  | _, value => !value.isEmpty

def mayRepeat : Opt → Bool
  | .verbose => true
  | _ => false

end Opt

inductive CommandName where
  | setup
  | run
  | list
  | completions
deriving DecidableEq, Repr

namespace CommandName

def ofText? : String → Option CommandName
  | "setup" => some .setup
  | "run" => some .run
  | "list" => some .list
  | "completions" => some .completions
  | _ => none

def options : CommandName → List Opt
  | .setup => [.entryPoint, .artifact, .withConfig]
  | .run => [.append, .overwrite, .root, .artifact, .dryRun]
  | .list => [.root, .format]
  | .completions => []

end CommandName

/-- The arguments of one level: those in front of the command, or those behind it. -/
structure Level where
  options : List Opt
  /-- What an argument without the name of an option sets. -/
  positional : Option Opt := none
  /-- Whether a command is to follow. -/
  hasCommands : Bool := false

namespace Level

def top : Level where
  options := [.config, .verbose, .help, .version]
  hasCommands := true

def ofCommand (name : CommandName) : Level where
  options := name.options ++ [.config, .verbose, .help]
  positional := if name = .completions then some .shell else none

def ofLong? (level : Level) (name : String) : Option Opt :=
  level.options.find? fun opt => opt.long? == some name

def ofLetter? (level : Level) (letter : Char) : Option Opt :=
  level.options.find? fun opt => opt.letter? == some letter

end Level

inductive ListFormat where
  | text
  | json
deriving DecidableEq, Repr

end Registrar.CommandLine
