import Flyover.FixedBytes.Json
/-!
Identifiers of Bitcoin transactions: 32 bytes, written in hexadecimal from the last byte to the first.
-/

namespace Flyover

structure Txid where
  hash : FixedBytes 32
deriving DecidableEq

namespace Txid

def text (t : Txid) : String := Hex.encode t.hash.toBytes.reverse

inductive Fault
  | length
  | digit
deriving DecidableEq

def Fault.message : Fault → String
  | length => "failed to parse hex"
  | digit => "failed to parse hex digit"

def ofText (s : String) : Except Fault Txid :=
  let b := Bytes.ofText s
  if b.length ≠ 64 then .error .length
  else match Hex.decodeBytes b with
    | .error _ => .error .digit
    | .ok b => match FixedBytes.ofBytes? b.reverse with
      | some h => .ok ⟨h⟩
      | none => .error .length

instance : Json.Encode Txid := ⟨fun t => .string t.text⟩

instance : Json.Decode Txid where
  decode
    | .string s => (ofText s).mapError fun e => .rejected e.message
    | j => .error (.wrongType j.shape "an ASCII hex string")

end Txid

end Flyover
