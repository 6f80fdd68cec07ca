/-!
Texts and their bytes in UTF-8. Bytes that are no text are either refused or replaced: each longest
start of a character that is broken off, or else each single byte, becomes one replacement
character. The length of a text is counted in bytes, and a text can be cut at such a length.
-/

set_option autoImplicit false

namespace Registrar.Text

def replacementChar : Char := '\uFFFD'

def isTail (b : UInt8) : Bool := 0x80 ≤ b && b ≤ 0xBF

def leadBounds (b : UInt8) : Option (Nat × UInt8 × UInt8) :=
  if 0xC2 ≤ b && b ≤ 0xDF then some (1, 0x80, 0xBF)
  else if b = 0xE0 then some (2, 0xA0, 0xBF)
  else if b = 0xED then some (2, 0x80, 0x9F)
  else if 0xE1 ≤ b && b ≤ 0xEF then some (2, 0x80, 0xBF)
  else if b = 0xF0 then some (3, 0x90, 0xBF)
  else if 0xF1 ≤ b && b ≤ 0xF3 then some (3, 0x80, 0xBF)
  else if b = 0xF4 then some (3, 0x80, 0x8F)
  else none

def addTail (code : Nat) (b : UInt8) : Nat := code * 64 + (b.toNat - 0x80)

/-- Reads bytes as text and replaces what is none. -/
def decodeReplacing : List UInt8 → List Char
  | [] => []
  | b :: rest =>
      if b < 0x80 then Char.ofNat b.toNat :: decodeReplacing rest
      else
        match leadBounds b, rest with
        | some (more, low, high), b1 :: rest1 =>
            if low ≤ b1 && b1 ≤ high then
              if more = 1 then
                Char.ofNat (addTail (b.toNat - 0xC0) b1) :: decodeReplacing rest1
              else
                match rest1 with
                | b2 :: rest2 =>
                    if isTail b2 then
                      if more = 2 then
                        Char.ofNat (addTail (addTail (b.toNat - 0xE0) b1) b2) ::
                          decodeReplacing rest2
                      else
                        match rest2 with
                        | b3 :: rest3 =>
                            if isTail b3 then
                              Char.ofNat
                                  (addTail (addTail (addTail (b.toNat - 0xF0) b1) b2) b3) ::
                                decodeReplacing rest3
                            else replacementChar :: decodeReplacing (b3 :: rest3)
                        | [] => [replacementChar]
                    else replacementChar :: decodeReplacing (b2 :: rest2)
                | [] => [replacementChar]
            else replacementChar :: decodeReplacing (b1 :: rest1)
        | _, rest => replacementChar :: decodeReplacing rest
termination_by bytes => bytes.length

structure Decoded where
  text : String
  lossy : Bool

def decode (bytes : ByteArray) : Decoded :=
  match String.fromUTF8? bytes with
  | some text => ⟨text, false⟩
  | none => ⟨String.ofList (decodeReplacing bytes.toList), true⟩

theorem fromUTF8?_toUTF8 (text : String) : String.fromUTF8? text.toUTF8 = some text := by
  simp [String.fromUTF8?, String.fromUTF8, text.isValidUTF8]

theorem decode_toUTF8 (text : String) : decode text.toUTF8 = ⟨text, false⟩ := by
  rw [decode, fromUTF8?_toUTF8]

def byteLength : List Char → Nat
  | [] => 0
  | c :: rest => c.utf8Size + byteLength rest

@[simp]
theorem byteLength_nil : byteLength [] = 0 := rfl

theorem byteLength_append (a b : List Char) :
    byteLength (a ++ b) = byteLength a + byteLength b := by
  induction a with
  | nil => simp
  | cons c rest ih => simp [byteLength, ih, Nat.add_assoc]

def takeBytes (n : Nat) : List Char → List Char
  | [] => []
  | c :: rest => if c.utf8Size ≤ n then c :: takeBytes (n - c.utf8Size) rest else []

theorem takeBytes_append (front back : List Char) :
    takeBytes (byteLength front) (front ++ back) = front := by
  induction front with
  | nil =>
      cases back with
      | nil => rfl
      | cons c rest => simp [takeBytes, Nat.ne_of_gt c.utf8Size_pos]
  | cons c rest ih => simp [takeBytes, byteLength, ih]

/-- The text cut behind its first `n` bytes. -/
def truncate (text : String) (n : Nat) : String := String.ofList (takeBytes n text.toList)

@[simp]
theorem truncate_append (front back : String) :
    truncate (front ++ back) (byteLength front.toList) = front := by
  simp [truncate, takeBytes_append]

@[simp]
theorem truncate_byteLength (text : String) :
    truncate text (byteLength text.toList) = text := by
  simpa using truncate_append text ""

end Registrar.Text
