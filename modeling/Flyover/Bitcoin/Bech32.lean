import Flyover.Bytes
/-!
Witness programs written in base 32 behind a human-readable part, with a checksum of six digits that depends on the
version of the program.
-/

namespace Flyover.Bitcoin.Bech32

def alphabet : List Char := "qpzry9x8gf2tvdw0s3jn54khce6mua7l".toList

def digit? (c : Char) : Option Nat := alphabet.findIdx? (· = c.toLower)

def generators : List Nat := [0x3b6a57b2, 0x26508e6d, 0x1ea119fa, 0x3d4233dd, 0x2a1462b3]

def step (acc digit : Nat) : Nat :=
  let top := acc / 0x2000000
  let next := ((acc % 0x2000000) * 32) ^^^ digit
  (List.range 5).foldl (fun acc i => if top.testBit i then acc ^^^ generators.getD i 0 else acc) next

def polymod (digits : List Nat) : Nat := digits.foldl step 1

def expand (hrp : List Char) : List Nat :=
  let codes := hrp.map fun c => c.toLower.toNat
  codes.map (· / 32) ++ 0 :: codes.map (· % 32)

def residue (version : Nat) : Nat := if version = 0 then 1 else 0x2bc830a3

def split? (cs : List Char) : Option (List Char × List Char) :=
  let data := (cs.reverse.takeWhile (· ≠ '1')).reverse
  if data.length = cs.length then none else some (cs.take (cs.length - data.length - 1), data)

def sameCase (cs : List Char) : Bool := !(cs.any Char.isUpper && cs.any Char.isLower)

def isHumanReadable (hrp : List Char) : Bool :=
  1 ≤ hrp.length && hrp.length ≤ 83 && hrp.all fun c => 33 ≤ c.toNat && c.toNat ≤ 126

def bytes? (digits : List Nat) : Option Bytes :=
  let spare := 5 * digits.length % 8
  let n := digits.foldl (fun n d => n * 32 + d) 0
  if 4 < spare || n % Nat.pow 2 spare ≠ 0 then none
  else some (Bytes.ofNatBE (5 * digits.length / 8) (n / Nat.pow 2 spare))

structure Program where
  version : Nat
  bytes : Bytes
deriving DecidableEq

def decode? (s : String) : Option (String × Program) := do
  guard (s.utf8ByteSize ≤ 90)
  let cs := s.toList
  let (hrp, data) ← split? cs
  let digits ← data.mapM digit?
  guard (sameCase cs && isHumanReadable hrp && 6 < digits.length)
  let version ← digits.head?
  guard (version ≤ 16 && polymod (expand hrp ++ digits) = residue version)
  let program ← bytes? ((digits.take (digits.length - 6)).tail)
  guard (2 ≤ program.length && program.length ≤ 40)
  guard (version ≠ 0 || program.length = 20 || program.length = 32)
  return (String.ofList (hrp.map Char.toLower), ⟨version, program⟩)

end Flyover.Bitcoin.Bech32
