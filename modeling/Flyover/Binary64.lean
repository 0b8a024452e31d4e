import Flyover.Bytes
/-!
Binary floating-point numbers of 64 bits, as words with an exact reading: each finite word stands for `± m · 2 ^ e`, and
results are the word nearest to the exact result, an exact half going to the even neighbour.
-/

namespace Flyover

structure Binary64 where
  bits : UInt64
deriving DecidableEq

namespace Binary64

inductive Reading
  | nan
  | infinite (negative : Bool)
  | finite (negative : Bool) (significand : Nat) (exponent : Int)
deriving DecidableEq

def signBit : Nat := 0x8000000000000000

def leadingBit : Nat := 0x10000000000000

def isSigned (x : Binary64) : Bool := signBit ≤ x.bits.toNat

def magnitude (x : Binary64) : Nat := x.bits.toNat % signBit

def infinityMagnitude : Nat := 0x7FF * leadingBit

def reading (x : Binary64) : Reading :=
  let field : Nat := x.magnitude / leadingBit
  let fraction := x.magnitude % leadingBit
  if field = 0x7FF then if fraction = 0 then .infinite x.isSigned else .nan
  else if field = 0 then .finite x.isSigned fraction (-1074)
  else .finite x.isSigned (leadingBit + fraction) ((field : Int) - 1075)

def ofMagnitude (negative : Bool) (m : Nat) : Binary64 :=
  ⟨UInt64.ofNat (m + if negative then signBit else 0)⟩

def nan : Binary64 := ofMagnitude false (infinityMagnitude + leadingBit / 2)

def infinity (negative : Bool) : Binary64 := ofMagnitude negative infinityMagnitude

def zero (negative : Bool) : Binary64 := ofMagnitude negative 0

def roundHalfEven (num den : Nat) : Nat :=
  let q := num / den
  let r := num % den
  if 2 * r < den || (2 * r = den && q % 2 = 0) then q else q + 1

def scaled (num den : Nat) (e : Int) : Nat × Nat :=
  if 0 ≤ e then (num, den * Nat.pow 2 e.toNat) else (num * Nat.pow 2 (-e).toNat, den)

def quotientExponent (num den : Nat) : Int :=
  let e : Int := (Nat.log2 num : Int) - Nat.log2 den - 53
  let (a, b) := scaled num den e
  max (if a / b < 2 * leadingBit then e else e + 1) (-1074)

/-- The word nearest to a quotient; one too large for a finite word becomes infinite. A significand that rounds up to
`2 ^ 53` carries into the exponent by itself. -/
def nearest (negative : Bool) (num den : Nat) : Binary64 :=
  if num = 0 then zero negative
  else
    let e := quotientExponent num den
    let (a, b) := scaled num den e
    ofMagnitude negative (min infinityMagnitude ((e + 1074).toNat * leadingBit + roundHalfEven a b))

def ofNat (n : Nat) : Binary64 := nearest false n 1

def ofDecimal (negative : Bool) (m : Nat) (e : Int) : Binary64 :=
  if m = 0 then zero negative
  else if 400 < e then infinity negative
  else if 0 ≤ e then nearest negative (m * Nat.pow 10 e.toNat) 1
  else if ((Nat.log2 m : Int) + 1) - 3 * (-e) < -1100 then zero negative
  else nearest negative m (Nat.pow 10 (-e).toNat)

def fraction (m : Nat) (e : Int) : Nat × Nat :=
  if 0 ≤ e then (m * Nat.pow 2 e.toNat, 1) else (m, Nat.pow 2 (-e).toNat)

def isNaN (x : Binary64) : Bool := x.reading = .nan

def isFinite (x : Binary64) : Bool := x.magnitude < infinityMagnitude

def isZero (x : Binary64) : Bool := x.magnitude = 0

def isNegative (x : Binary64) : Bool := x.isSigned && !x.isNaN && !x.isZero

def mul (x y : Binary64) : Binary64 :=
  let negative := x.isSigned != y.isSigned
  match x.reading, y.reading with
  | .nan, _ | _, .nan => nan
  | .infinite _, .finite _ m _ | .finite _ m _, .infinite _ => if m = 0 then nan else infinity negative
  | .infinite _, .infinite _ => infinity negative
  | .finite _ m e, .finite _ n f =>
    let (num, den) := fraction (m * n) (e + f)
    nearest negative num den

def div (x y : Binary64) : Binary64 :=
  let negative := x.isSigned != y.isSigned
  match x.reading, y.reading with
  | .nan, _ | _, .nan => nan
  | .infinite _, .infinite _ => nan
  | .infinite _, .finite .. => infinity negative
  | .finite .., .infinite _ => zero negative
  | .finite _ m e, .finite _ n f =>
    if n = 0 then if m = 0 then nan else infinity negative
    else
      let (a, b) := fraction m (e - f)
      nearest negative a (b * n)

/-- The nearest unsigned integer of 64 bits, an exact half going away from zero. Numbers outside the range go to its
nearer end and a NaN to zero. -/
def roundToUInt64 (x : Binary64) : UInt64 :=
  match x.reading with
  | .nan | .infinite true => 0
  | .infinite false => UInt64.ofNat (UInt64.size - 1)
  | .finite negative m e =>
    let (num, den) := fraction m e
    if negative then 0 else UInt64.ofNat (min (UInt64.size - 1) ((2 * num + den) / (2 * den)))

end Binary64

end Flyover
