import Flyover.Signature
/-!
Records signed together with the hash of their JSON form, and the accounts that a provider trusts.
-/

namespace Flyover

structure Signed (α : Type) where
  value : α
  hash : String
  signature : String
deriving DecidableEq

namespace Signed

variable {α : Type}

def valueHash [Json.Encode α] (value : α) : FixedBytes 32 :=
  keccak256 (Bytes.ofText (Json.text (Json.encode value)))

def sign [Json.Encode α] (key : SecretKey) (value : α) : Signed α :=
  ⟨value, Hex.encode (valueHash value).toBytes, Hex.encode (key.signHash (valueHash value))⟩

def isIntact [Json.Encode α] (s : Signed α) : Bool := Hex.encode (valueHash s.value).toBytes = Hex.dropMarkers s.hash

instance [Json.Encode α] : Json.Encode (Signed α) where
  encode s := .object [("value", Json.encode s.value), ("hash", Json.encode s.hash), ("signature", Json.encode s.signature)]

instance [Json.Decode α] : Json.Decode (Signed α) where
  decode := Json.record ⟨"Signed", 3⟩ do
    return { value := ← Json.field "value", hash := ← Json.field "hash", signature := ← Json.field "signature" }

end Signed

structure TrustedAccount where
  address : Address
  name : String
  bitcoinCap : Wei
  cap : Wei
deriving DecidableEq

namespace TrustedAccount

instance : Json.Encode TrustedAccount where
  encode a := .object [("address", Json.encode a.address), ("name", Json.encode a.name),
    ("btcLockingCap", Json.encode a.bitcoinCap), ("rbtcLockingCap", Json.encode a.cap)]

instance : Json.Decode TrustedAccount where
  decode := Json.record ⟨"TrustedAccountDetails", 4⟩ do
    return {
      address := ← Json.field "address"
      name := ← Json.field "name"
      bitcoinCap := ← Json.field "btcLockingCap"
      cap := ← Json.field "rbtcLockingCap" }

end TrustedAccount

end Flyover
