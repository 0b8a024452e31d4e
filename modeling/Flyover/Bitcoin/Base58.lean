import Flyover.Crypto.Sha256
/-!
Byte strings written in base 58, one leading `1` for each leading zero byte, with four bytes of a doubled hash at the end.
-/

namespace Flyover.Bitcoin.Base58

def alphabet : List Char := "123456789ABCDEFGHJKLMNPQRSTUVWXYZabcdefghijkmnopqrstuvwxyz".toList

def digit? (c : Char) : Option Nat := alphabet.findIdx? (· = c)

def byteCount : (fuel n : Nat) → Nat
  | 0, _ => 0
  | fuel + 1, n => if n = 0 then 0 else byteCount fuel (n / 256) + 1

def decode? (s : String) : Option Bytes := do
  let digits ← s.toList.mapM digit?
  let n := digits.foldl (fun n d => n * 58 + d) 0
  return List.replicate (digits.takeWhile (· = 0)).length 0 ++ Bytes.ofNatBE (byteCount digits.length n) n

def checksum (payload : Bytes) : Bytes := (sha256 (sha256 payload)).take 4

def decodeChecked? (s : String) : Option Bytes := do
  let b ← decode? s
  guard (4 ≤ b.length)
  let payload := b.take (b.length - 4)
  guard (b.drop (b.length - 4) = checksum payload)
  return payload

end Flyover.Bitcoin.Base58
