import Flyover.Crypto.Keccak256
import Flyover.Crypto.Secp256k1
import Flyover.FixedBytes.Json
/-!
Addresses of accounts and contracts: twenty bytes, written in hexadecimal after `0x`. In the checksummed text the case of
each letter is given by the hash of the lower-case digits.
-/

namespace Flyover

abbrev Address := FixedBytes 20

namespace Address

instance : Std.TransOrd Address := inferInstanceAs (Std.TransOrd (FixedBytes 20))

instance : Std.LawfulEqOrd Address := inferInstanceAs (Std.LawfulEqOrd (FixedBytes 20))

def digits (a : Address) : List Char := Hex.encodeChars a.toBytes

def lowerText (a : Address) : String := String.ofList ('0' :: 'x' :: a.digits)

def checksum (lower : List Char) : List Char :=
  let hash := (keccak256 (lower.map fun c => UInt8.ofNat c.toNat)).toBytes
  List.zipWith (fun c h => if 8 ≤ h then c.toUpper else c) lower (hash.flatMap fun b => [b / 16, b % 16])

def text (a : Address) : String := String.ofList ('0' :: 'x' :: checksum a.digits)

def isText (s : String) : Bool :=
  match s.toList with
  | '0' :: 'x' :: cs => cs.length = 40 && cs.all fun c => (Hex.charDigit? c).isSome
  | _ => false

def ofText? (s : String) : Option Address :=
  if isText s then
    match Hex.decodeBytes ((s.toList.drop 2).map fun c => UInt8.ofNat c.toNat) with
    | .ok b => FixedBytes.ofBytes? b
    | .error _ => none
  else none

def ofPublicKey (q : Secp256k1.Point) : Address where
  toBytes := (keccak256 (Bytes.ofNatBE 32 q.x ++ Bytes.ofNatBE 32 q.y)).toBytes.drop 12
  length_toBytes := by simp [FixedBytes.length_toBytes]

instance : Json.Encode Address := ⟨fun a => .string a.lowerText⟩

instance : Json.Decode Address := ⟨FixedBytes.ofJson, none⟩

end Address

end Flyover
