import Flyover.Crypto.Secp256k1
import Flyover.Crypto.Sha256
/-!
Signatures on the curve secp256k1 from which the public key can be recovered. The secret number of a signature is derived
from key and message, so that signing is a function of both.
-/

namespace Flyover

open Secp256k1

structure SecretKey where
  toNat : Nat
  pos : 0 < toNat
  lt_n : toNat < n
deriving DecidableEq

abbrev PublicKey := Point

structure RecoverableSignature where
  r : Nat
  s : Nat
  odd : Bool
  large : Bool
deriving DecidableEq

namespace SecretKey

def ofBytes? (b : Bytes) : Option SecretKey :=
  if b.length = 32 then
    let k := Bytes.toNatBE b
    if h : 0 < k ∧ k < n then some ⟨k, h.1, h.2⟩ else none
  else none

def toBytes (k : SecretKey) : Bytes := Bytes.ofNatBE 32 k.toNat

def publicKey (k : SecretKey) : PublicKey := (Jacobian.mul k.toNat (.ofPoint generator)).point?.getD generator

structure Drawing where
  key : Bytes
  value : Bytes

def drawing (k : SecretKey) (digest : Bytes) : Drawing :=
  let seed := k.toBytes ++ digest
  let v := List.replicate 32 0x01
  let k₁ := hmacSha256 (List.replicate 32 0x00) (v ++ 0x00 :: seed)
  let v₁ := hmacSha256 k₁ v
  let k₂ := hmacSha256 k₁ (v₁ ++ 0x01 :: seed)
  let v₂ := hmacSha256 k₂ v₁
  ⟨k₂, hmacSha256 k₂ v₂⟩

def Drawing.next (d : Drawing) : Drawing :=
  let k := hmacSha256 d.key (d.value ++ [0x00])
  let v := hmacSha256 k d.value
  ⟨k, hmacSha256 k v⟩

def signWith? (k : SecretKey) (digest : Bytes) (secret : Nat) : Option RecoverableSignature :=
  if secret = 0 || n ≤ secret then none
  else
    match (Jacobian.mul secret (.ofPoint generator)).point? with
    | none => none
    | some q =>
      let r := q.x % n
      let m := Bytes.toNatBE digest % n
      let s := inverse n secret * ((m + r * k.toNat) % n) % n
      if r = 0 || s = 0 then none
      else if n / 2 < s then some ⟨r, n - s, q.y % 2 = 0, n ≤ q.x⟩
      else some ⟨r, s, q.y % 2 = 1, n ≤ q.x⟩

def signFrom (k : SecretKey) (digest : Bytes) : (draws : Nat) → Drawing → RecoverableSignature
  | 0, _ => ⟨0, 0, false, false⟩
  | draws + 1, d =>
    match signWith? k digest (Bytes.toNatBE d.value) with
    | some signature => signature
    | none => signFrom k digest draws d.next

/-- The signature of a digest of 32 bytes. A drawn number is unfit less than once in `2 ^ 127` draws. -/
def sign (k : SecretKey) (digest : Bytes) : RecoverableSignature := signFrom k digest 16 (k.drawing digest)

end SecretKey

def RecoverableSignature.recover? (signature : RecoverableSignature) (digest : Bytes) : Option PublicKey :=
  if signature.r = 0 || n ≤ signature.r || signature.s = 0 || n ≤ signature.s then none
  else
    match lift? (signature.r + if signature.large then n else 0) signature.odd with
    | none => none
    | some q =>
      let m := Bytes.toNatBE digest % n
      let i := inverse n signature.r
      let u := i * (n - m) % n
      let v := i * signature.s % n
      ((Jacobian.mul u (.ofPoint generator)).add (Jacobian.mul v (.ofPoint q))).point?

end Flyover
