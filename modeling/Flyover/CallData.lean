import Flyover.FixedBytes.Json
/-!
The data sent along with a call.
-/

namespace Flyover

structure CallData where
  bytes : Bytes
deriving DecidableEq

namespace CallData

def empty : CallData := ⟨[]⟩

def text (d : CallData) : String := "0x" ++ Hex.encode d.bytes

def ofText? (s : String) : Option CallData :=
  match Hex.decodeBytes (FixedBytes.dropMarker (Bytes.ofText s)) with
  | .ok b => some ⟨b⟩
  | .error _ => none

instance : Json.Encode CallData := ⟨fun d => .string d.text⟩

instance : Json.Decode CallData where
  decode
    | .string s =>
      match ofText? s with
      | some d => .ok d
      | none => .error (.wrongValue (.string s) "a valid hex string")
    | .array items => (items.mapM fun j => (Json.decode j : Except Json.Fault UInt8)).map CallData.mk
    | j => .error (.wrongType j.shape "a valid hex string")

end CallData

end Flyover
