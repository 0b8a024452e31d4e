import Flyover.Address
import Flyover.Crypto.Ecdsa
import Flyover.Quote
/-!
Signatures over quote hashes: 65 bytes that hold the two numbers of the signature and then a byte from which the signer is
recovered. What is signed is the hash as a personal message.
-/

namespace Flyover

def personalMessageDigest (hash : FixedBytes 32) : FixedBytes 32 :=
  keccak256 (0x19 :: Bytes.ofText "Ethereum Signed Message:\n32" ++ hash.toBytes)

namespace SecretKey

def address (k : SecretKey) : Address := Address.ofPublicKey k.publicKey

def recoveryId (s : RecoverableSignature) : Nat := (if s.odd then 1 else 0) + if s.large then 2 else 0

def signHash (k : SecretKey) (hash : FixedBytes 32) : Bytes :=
  let s := k.sign (personalMessageDigest hash).toBytes
  Bytes.ofNatBE 32 s.r ++ Bytes.ofNatBE 32 s.s ++ [UInt8.ofNat (recoveryId s + 27)]

def signQuoteHash (k : SecretKey) (hash : String) : Except Error String := do
  let h ← Quote.decodeHash hash
  return Hex.encode (k.signHash h)

def ofBytes (b : Bytes) : Except Error SecretKey :=
  match ofBytes? b with
  | some k => .ok k
  | none => .error (.signature .secretKey)

end SecretKey

namespace Signature

def size : Nat := 65

def ofBytes (b : Bytes) (v : UInt8) : Except Error RecoverableSignature :=
  let id := if 27 ≤ v then v - 27 else v
  if 4 ≤ id then .error (.signature .recoveryId)
  else .ok ⟨Bytes.toNatBE (b.take 32), Bytes.toNatBE (b.drop 32), id % 2 = 1, 2 ≤ id⟩

def recoverSigner (hash : FixedBytes 32) (signature : Bytes) : Except Error Address :=
  if signature.length ≠ size then .error (.signatureLength signature.length)
  else do
    let s ← ofBytes (signature.take 64) (signature.getD 64 0)
    match s.recover? (personalMessageDigest hash).toBytes with
    | some q => return Address.ofPublicKey q
    | none => throw (.signature .signature)

def recoverSignerText (hash signature : String) : Except Error Address := do
  let h ← Quote.decodeHash hash
  match Hex.decode (Hex.dropMarkers signature) with
  | .error fault => throw (.hex fault)
  | .ok b => recoverSigner h b

end Signature

end Flyover
