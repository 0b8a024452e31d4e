import Flyover.Bytes
/-!
The elliptic curve secp256k1, `y² = x³ + 7` over the integers modulo a prime, with a generator of prime order.
-/

namespace Flyover.Secp256k1

def p : Nat := 0xFFFFFFFFFFFFFFFFFFFFFFFFFFFFFFFFFFFFFFFFFFFFFFFFFFFFFFFEFFFFFC2F

def n : Nat := 0xFFFFFFFFFFFFFFFFFFFFFFFFFFFFFFFEBAAEDCE6AF48A03BBFD25E8CD0364141

def bits (k : Nat) : List Bool := (List.range 256).reverse.map k.testBit

def powMod (m b k : Nat) : Nat :=
  (bits k).foldl (fun acc bit => let sq := acc * acc % m; if bit then sq * b % m else sq) (1 % m)

def inverse (m a : Nat) : Nat := powMod m a (m - 2)

def sub (m a b : Nat) : Nat := (a + (m - b % m)) % m

structure Point where
  x : Nat
  y : Nat
deriving DecidableEq

def generator : Point where
  x := 0x79BE667EF9DCBBAC55A06295CE870B07029BFCDB2DCE28D959F2815B16F81798
  y := 0x483ADA7726A3C4655DA4FBFC0E1108A8FD17B448A68554199C47D08FFB10D4B8

structure Jacobian where
  x : Nat
  y : Nat
  z : Nat

namespace Jacobian

def neutral : Jacobian := ⟨1, 1, 0⟩

def ofPoint (q : Point) : Jacobian := ⟨q.x, q.y, 1⟩

def double (q : Jacobian) : Jacobian :=
  let a := q.x * q.x % p
  let b := q.y * q.y % p
  let c := b * b % p
  let d := 4 * q.x * b % p
  let e := 3 * a % p
  let x := sub p (e * e) (2 * d)
  ⟨x, sub p (e * sub p d x) (8 * c), 2 * q.y * q.z % p⟩

def add (q r : Jacobian) : Jacobian :=
  if q.z = 0 then r
  else if r.z = 0 then q
  else
    let qz := q.z * q.z % p
    let rz := r.z * r.z % p
    let u := q.x * rz % p
    let v := r.x * qz % p
    let s := q.y * rz % p * r.z % p
    let t := r.y * qz % p * q.z % p
    if u = v then if s = t then double q else neutral
    else
      let h := sub p v u
      let w := sub p t s
      let hh := h * h % p
      let hhh := hh * h % p
      let uh := u * hh % p
      let x := sub p (w * w) (hhh + 2 * uh)
      ⟨x, sub p (w * sub p uh x) (s * hhh), q.z * r.z % p * h % p⟩

def mul (k : Nat) (q : Jacobian) : Jacobian :=
  (bits k).foldl (fun acc bit => let twice := acc.double; if bit then twice.add q else twice) neutral

def point? (q : Jacobian) : Option Point :=
  if q.z = 0 then none
  else
    let i := inverse p q.z
    let ii := i * i % p
    some ⟨q.x * ii % p, q.y * ii % p * i % p⟩

end Jacobian

def lift? (x : Nat) (odd : Bool) : Option Point :=
  if p ≤ x then none
  else
    let square := (x * x % p * x + 7) % p
    let y := powMod p square ((p + 1) / 4)
    if y * y % p = square then some ⟨x, if (y % 2 = 1) = odd then y else (p - y) % p⟩ else none

end Flyover.Secp256k1
