/-!
Displays. A report tells a display what its parts mean; the terminal decides on their form.
-/

set_option autoImplicit false

namespace Registrar

inductive Call where
  | section (name : String)
  | keyValue (key value : String)
  | listItem (text : String)
  /-- Something that was created or registered. -/
  | addedItem (text : String)
  | warning (message : String)
  /-- A labelled line between a preview and its summary. -/
  | divider (label : String)
  | preformatted (text : String)
  | newline
deriving DecidableEq, Repr

structure Written where
  out : String := ""
  err : String := ""
deriving DecidableEq, Repr

namespace Call

def onTerminal : Call → Written
  | .section name => { out := name ++ ":\n" }
  | .keyValue key value => { out := key ++ ": " ++ value ++ "\n" }
  | .listItem text => { out := "  - " ++ text ++ "\n" }
  | .addedItem text => { out := "  + " ++ text ++ "\n" }
  | .warning message => { err := "warning: " ++ message ++ "\n" }
  | .divider label => { out := "── " ++ label ++ " ──\n" }
  | .preformatted text => { out := text ++ "\n" }
  | .newline => { out := "\n" }

end Call

def writeCalls (calls : List Call) : Written where
  out := String.join (calls.map fun call => call.onTerminal.out)
  err := String.join (calls.map fun call => call.onTerminal.err)

end Registrar
