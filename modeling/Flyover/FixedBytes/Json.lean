import Flyover.FixedBytes
import Flyover.Hex
import Flyover.Json.Record
/-!
Byte strings of a fixed length as they are read from JSON: hexadecimal text, or an array with one number per byte.
-/

namespace Flyover.FixedBytes

variable {size : Nat}

def dropMarker : Bytes → Bytes
  | 0x30 :: 0x78 :: rest => rest
  | 0x30 :: 0x58 :: rest => rest
  | b => b

def ofHex (s : String) : Except Json.Fault (FixedBytes size) :=
  let digits := dropMarker (Bytes.ofText s)
  if digits.length % 2 = 1 then .error (.rejected "odd number of digits")
  else if digits.length ≠ 2 * size then .error (.rejected "invalid string length")
  else match Hex.pairs 0 digits with
    | .ok b => match ofBytes? b with
      | some a => .ok a
      | none => .error (.rejected "invalid string length")
    | .error .oddLength => .error (.rejected "odd number of digits")
    | .error (.invalidCharacter b n) => .error (.rejected
        ("invalid character " ++ Text.quotedChar (Char.ofNat b.toNat) ++ " at position " ++ Text.numeral n))

def expected (size : Nat) : String :=
  Text.numeral size ++ " bytes, represented as a hex string of length " ++ Text.numeral (2 * size) ++
    ", an array of u8, or raw bytes"

def ofItems (items : List Json) : Except Json.Fault (FixedBytes size) := do
  let expected := "exactly " ++ Text.numeral size ++ " bytes"
  let b ← (items.take size).mapM fun j => (Json.decode j : Except Json.Fault UInt8)
  match ofBytes? b, items.drop size with
  | none, _ => throw (.wrongLength b.length expected)
  | some a, [] => return a
  | some a, extra :: more =>
    match (Json.decode extra : Except Json.Fault UInt8) with
    | .ok _ => throw (.wrongLength (size + 1) expected)
    | .error _ => if more.isEmpty then return a else throw (.wrongLength items.length "fewer elements in array")

def ofJson : Json → Except Json.Fault (FixedBytes size)
  | .string s => ofHex s
  | .array items => ofItems items
  | j => .error (.wrongType j.shape (expected size))

end Flyover.FixedBytes
