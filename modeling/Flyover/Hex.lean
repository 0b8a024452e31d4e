import Flyover.Bytes
import Flyover.Text.Digits
import Flyover.Text.Quoted
/-!
Byte strings written with two hexadecimal digits per byte. Writing uses lower-case digits, reading takes both cases and
finds fault first with an odd length, then with the first byte that is no digit.
-/

namespace Flyover.Hex

def digit? (b : UInt8) : Option UInt8 :=
  if 0x30 ≤ b ∧ b ≤ 0x39 then some (b - 0x30)
  else if 0x41 ≤ b ∧ b ≤ 0x46 then some (b - 0x37)
  else if 0x61 ≤ b ∧ b ≤ 0x66 then some (b - 0x57)
  else none

def charDigit? (c : Char) : Option UInt8 := if c.toNat < 0x80 then digit? (UInt8.ofNat c.toNat) else none

def digitChar (n : Nat) : Char :=
  if n < 10 then Char.ofNat (0x30 + n) else Char.ofNat (0x57 + n)

def byteChars (b : UInt8) : List Char := [digitChar (b.toNat / 16), digitChar (b.toNat % 16)]

def encodeChars (b : Bytes) : List Char := b.flatMap byteChars

def encode (b : Bytes) : String := String.ofList (encodeChars b)

inductive Fault
  | oddLength
  | invalidCharacter (byte : UInt8) (position : Nat)
deriving DecidableEq

def Fault.message : Fault → String
  | oddLength => "Odd number of digits"
  | invalidCharacter b n =>
    "Invalid character " ++ Text.quotedChar (Char.ofNat b.toNat) ++ " at position " ++ Text.numeral n

def pair (position : Nat) (a b : UInt8) : Except Fault UInt8 :=
  match digit? a, digit? b with
  | some x, some y => .ok (x * 16 + y)
  | none, _ => .error (.invalidCharacter a position)
  | some _, none => .error (.invalidCharacter b (position + 1))

def pairs (position : Nat) : Bytes → Except Fault Bytes
  | a :: b :: rest => do
    let x ← pair position a b
    let xs ← pairs (position + 2) rest
    return x :: xs
  | _ => .ok []

def decodeBytes (text : Bytes) : Except Fault Bytes :=
  if text.length % 2 = 1 then .error .oddLength else pairs 0 text

def decode (s : String) : Except Fault Bytes := decodeBytes (Bytes.ofText s)

def dropMarkersChars : List Char → List Char
  | '0' :: 'x' :: rest => dropMarkersChars rest
  | cs => cs

def dropMarkers (s : String) : String := String.ofList (dropMarkersChars s.toList)

end Flyover.Hex
