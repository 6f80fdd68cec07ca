import Registrar.CommandLine.Arguments
import Registrar.Manifest.Basic

/-!
Invocations: what the arguments of a command line ask for.
-/

set_option autoImplicit false

namespace Registrar.CommandLine

/-- A command with its settings. What is not set is taken from the manifest. -/
inductive Command where
  | setup (entryPoint withConfig : Bool) (artifact : Option Path)
  | run (mode : Option WriteMode) (root artifact : Option Path) (dryRun : Bool)
  | list (root : Option Path) (format : ListFormat)
  | completions (shell : String)
deriving DecidableEq

structure Invocation where
  /-- The manifest, if it is not the usual one. -/
  config : Option Path
  command : Command
deriving DecidableEq

def Arguments.path? (arguments : Arguments) (opt : Opt) : Option Path :=
  (arguments.value? opt).map Path.mk

def Arguments.mode? (arguments : Arguments) : Option WriteMode :=
  if arguments.has .append then some .append
  else if arguments.has .overwrite then some .overwrite
  else none

def CommandName.command (name : CommandName) (arguments : Arguments) : Except Refusal Command :=
  match name with
  | .setup =>
      .ok (.setup (arguments.has .entryPoint) (arguments.has .withConfig)
        (arguments.path? .artifact))
  | .run =>
      if arguments.has .append && arguments.has .overwrite then .error .conflict
      else
        .ok (.run arguments.mode? (arguments.path? .root) (arguments.path? .artifact)
          (arguments.has .dryRun))
  | .list =>
      .ok (.list (arguments.path? .root)
        (if arguments.value? .format = some "json" then .json else .text))
  | .completions =>
      match arguments.value? .shell with
      | some shell => .ok (.completions shell)
      | none => .error .missingArgument

def helpOn : List String → Refusal
  | [] => .help
  | [topic] =>
      if topic = "help" ∨ (CommandName.ofText? topic).isSome then .help else .unknownCommand
  | _ :: _ :: _ => .unknownCommand

def Invocation.behind (outer : Arguments) (name : CommandName) (texts : List String) :
    Except Refusal Invocation := do
  let inner ← ({ } : Arguments).readAll (.ofCommand name) texts
  let command ← name.command inner
  let outer ← outer.settle
  return ⟨(inner.path? .config).orElse fun _ => outer.path? .config, command⟩

def Invocation.read (arguments : Arguments) : List String → Except Refusal Invocation
  | [] => do
      let arguments ← arguments.settle
      if arguments.given.isEmpty then .error .noArguments else .error .missingCommand
  | text :: rest =>
      let isWord := !arguments.trailing && !arguments.expectsValue
      match if isWord then CommandName.ofText? text else none with
      | some name => Invocation.behind arguments name rest
      | none =>
          if isWord && text == "help" then .error (helpOn rest)
          else do Invocation.read (← arguments.read .top text) rest

def Invocation.ofArguments (texts : List String) : Except Refusal Invocation :=
  Invocation.read { } texts

end Registrar.CommandLine
