import Registrar.Text.Utf8
import Std.Data.TreeMap

/-!
The names of files and directories. A name is made of bytes, which may be no text; names are
ordered by their bytes.
-/

set_option autoImplicit false

namespace Registrar

structure FileName where
  bytes : List UInt8
deriving DecidableEq

namespace FileName

def ofText (text : String) : FileName := ⟨text.toUTF8.data.toList⟩

instance : Coe String FileName := ⟨ofText⟩

def text? (name : FileName) : Option String := String.fromUTF8? ⟨name.bytes.toArray⟩

/-- The name as it is shown: bytes that are no text are replaced. -/
def shown (name : FileName) : String := (Text.decode ⟨name.bytes.toArray⟩).text

@[simp]
theorem text?_ofText (text : String) : (ofText text).text? = some text :=
  Text.fromUTF8?_toUTF8 text

theorem text?_eq_some_iff {name : FileName} {text : String} :
    name.text? = some text ↔ name = ofText text := by
  constructor
  · intro found
    simp only [text?, String.fromUTF8?, Option.dite_none_right_eq_some, Option.some.injEq] at found
    obtain ⟨valid, rfl⟩ := found
    rfl
  · rintro rfl
    exact text?_ofText text

theorem ofText_injective {first second : String} (same : ofText first = ofText second) :
    first = second := by
  have texts := congrArg text? same
  rw [text?_ofText, text?_ofText] at texts
  exact Option.some.inj texts

@[simp]
theorem ofText_inj {first second : String} : ofText first = ofText second ↔ first = second :=
  ⟨ofText_injective, congrArg ofText⟩

instance : Ord FileName := ⟨fun first second => compare first.bytes second.bytes⟩

theorem compare_eq (first second : FileName) :
    compare first second = compare first.bytes second.bytes := rfl

instance : Std.TransOrd FileName where
  eq_swap := by
    intro first second
    exact @Std.OrientedCmp.eq_swap (List UInt8) compare _ first.bytes second.bytes
  isLE_trans := by
    intro first second third
    exact @Std.TransCmp.isLE_trans (List UInt8) compare _ first.bytes second.bytes third.bytes

instance : Std.LawfulEqOrd FileName where
  eq_of_compare := by
    rintro ⟨first⟩ ⟨second⟩ same
    exact congrArg mk (Std.LawfulEqOrd.eq_of_compare same)

def dot : UInt8 := 0x2E

def extension? (name : FileName) : Option FileName :=
  let before := (name.bytes.reverse.dropWhile (· != dot)).drop 1
  if before.isEmpty then none else some ⟨(name.bytes.reverse.takeWhile (· != dot)).reverse⟩

end FileName

end Registrar
