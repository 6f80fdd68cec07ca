import Registrar.Manifest.Basic
import Registrar.Toml.Value

/-!
The manifest in a table. Settings that are left out keep their defaults; a key that is none of the
settings and a value of the wrong form make the table no manifest.
-/

set_option autoImplicit false

namespace Registrar

/-- The mode that a value names. Besides a string this may be a table with the name as its only
key and nothing under it. -/
def WriteMode.ofValue? : Toml.Value → Option WriteMode
  | .string text => ofName? text
  | .table [(name, .table [])] => ofName? name
  | .table [(name, .array [])] => ofName? name
  | _ => none

namespace ScanSettings

def set? (settings : ScanSettings) : String → Toml.Value → Option ScanSettings
  | "root", value => value.text?.map fun text => { settings with root := ⟨text⟩ }
  | "extensions", value => value.texts?.map fun texts => { settings with extensions := texts }
  | "exclude", value => value.texts?.map fun texts => { settings with exclude := texts }
  | "marker", value => value.text?.map fun text => { settings with marker := text }
  | _, _ => none

/-- The keys in the order in which an array gives their values. -/
def keys : List String := ["root", "extensions", "exclude", "marker"]

end ScanSettings

namespace OutputSettings

def set? (settings : OutputSettings) : String → Toml.Value → Option OutputSettings
  | "artifact", value => value.text?.map fun text => { settings with artifact := ⟨text⟩ }
  | "entry_point", value => value.text?.map fun text => { settings with entryPoint := ⟨text⟩ }
  | "mode", value => (WriteMode.ofValue? value).map fun mode => { settings with mode := mode }
  | _, _ => none

def keys : List String := ["artifact", "entry_point", "mode"]

end OutputSettings

/-- The entries of a section: a table has them, and an array gives the values of the first keys. -/
def sectionEntries? (keys : List String) : Toml.Value → Option (List (String × Toml.Value))
  | .table entries => some entries
  | .array items => some (keys.zip items)
  | _ => none

def readSection? {α : Type} (keys : List String) (set? : α → String → Toml.Value → Option α)
    (defaults : α) (value : Toml.Value) : Option α := do
  (← sectionEntries? keys value).foldlM (fun settings (key, value) => set? settings key value)
    defaults

namespace Manifest

def set? (manifest : Manifest) : String → Toml.Value → Option Manifest
  | "scan", value =>
      (readSection? ScanSettings.keys ScanSettings.set? { } value).map fun settings =>
        { manifest with scan := settings }
  | "output", value =>
      (readSection? OutputSettings.keys OutputSettings.set? { } value).map fun settings =>
        { manifest with output := settings }
  | _, _ => none

def ofEntries? (entries : List (String × Toml.Value)) : Option Manifest :=
  entries.foldlM (fun manifest (key, value) => manifest.set? key value) { }

end Manifest

end Registrar
