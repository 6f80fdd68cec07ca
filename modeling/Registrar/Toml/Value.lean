/-!
Values of a TOML document.
-/

set_option autoImplicit false

namespace Registrar.Toml

inductive Value where
  | string (text : String)
  /-- A number, a truth value, a date or a time, as written. -/
  | scalar (text : String)
  | array (items : List Value)
  | table (entries : List (String × Value))
deriving Repr

namespace Value

def text? : Value → Option String
  | string text => some text
  | _ => none

def texts? : Value → Option (List String)
  | array items => items.mapM text?
  | _ => none

end Value

end Registrar.Toml
