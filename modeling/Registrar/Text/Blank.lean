/-!
Blank characters, the Unicode property `White_Space`, and the operations that leave them out.
-/

set_option autoImplicit false

namespace Registrar.Text

/-- Characters with the property `White_Space`. -/
def isBlank (c : Char) : Bool :=
  let n := c.toNat
  (9 ≤ n && n ≤ 13) || n == 0x20 || n == 0x85 || n == 0xA0 || n == 0x1680 ||
    (0x2000 ≤ n && n ≤ 0x200A) || n == 0x2028 || n == 0x2029 || n == 0x202F || n == 0x205F ||
    n == 0x3000

def trimEndChars (text : List Char) : List Char :=
  (text.reverse.dropWhile isBlank).reverse

def trimChars (text : List Char) : List Char :=
  trimEndChars (text.dropWhile isBlank)

def trim (text : String) : String :=
  String.ofList (trimChars text.toList)

def compact (text : String) : String :=
  String.ofList (text.toList.filter fun c => !isBlank c)

@[simp]
theorem toList_compact (text : String) :
    (compact text).toList = text.toList.filter fun c => !isBlank c := by
  simp [compact]

def IsCompact (text : String) : Prop := ∀ c ∈ text.toList, isBlank c = false

instance (text : String) : Decidable (IsCompact text) :=
  List.decidableBAll (fun c => isBlank c = false) text.toList

end Registrar.Text
