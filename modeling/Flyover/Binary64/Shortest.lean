import Flyover.Binary64
import Flyover.Text.Digits
/-!
The decimal text of a binary floating-point number: the fewest digits that read back as the same number, and of those the
nearest to its exact value.
-/

namespace Flyover.Binary64

structure Decimal where
  digits : Nat
  point : Int
deriving DecidableEq

def decade (num den : Nat) : Int :=
  if den ≤ num then (Nat.toDigits 10 (num / den)).length
  else
    let d := (Nat.toDigits 10 (den / num)).length
    if num * Nat.pow 10 (d - 1) = den then 2 - (d : Int) else 1 - (d : Int)

def inUnits (num den : Nat) (p : Int) : Nat × Nat :=
  if 0 ≤ p then (num, den * Nat.pow 10 p.toNat) else (num * Nat.pow 10 (-p).toNat, den)

def interval (m : Nat) (e : Int) : Nat × Nat × Bool :=
  (if m = leadingBit && -1074 < e then 4 * m - 1 else 4 * m - 2, 4 * m + 2, m % 2 = 0)

def readsBack (m : Nat) (e : Int) (d : Nat) (p : Int) : Bool :=
  let (low, high, closed) := interval m e
  let (a, b) := inUnits 1 1 (-p)
  let (u, v) := fraction 1 (e - 2)
  let x := d * a * v
  if closed then low * u * b ≤ x && x ≤ high * u * b else low * u * b < x && x < high * u * b

def gridHit (m : Nat) (e : Int) (p : Int) : Option Nat :=
  let (num, den) := fraction m e
  let (a, b) := inUnits num den p
  let q := a / b
  match readsBack m e q p, readsBack m e (q + 1) p with
  | true, true => some (roundHalfEven a b)
  | true, false => some q
  | false, true => some (q + 1)
  | false, false => none

def dropZeros : (places : Nat) → Nat → Nat
  | 0, n => n
  | k + 1, n => if n % 10 = 0 && n ≠ 0 then dropZeros k (n / 10) else n

def shortestFrom (m : Nat) (e k : Int) : (grids n : Nat) → Decimal
  | 0, _ => ⟨m, k⟩
  | g + 1, n =>
    match gridHit m e (k - n) with
    | some d =>
      let d' := dropZeros 18 d
      ⟨d', k - n + (Nat.toDigits 10 d).length⟩
    | none => shortestFrom m e k g (n + 1)

def shortest (m : Nat) (e : Int) : Decimal :=
  let (num, den) := fraction m e
  shortestFrom m e (decade num den) 17 1

def zeros (n : Nat) : List Char := List.replicate n '0'

def Decimal.positional (d : Decimal) : List Char :=
  let ds := Nat.toDigits 10 d.digits
  if d.point ≤ 0 then ['0', '.'] ++ zeros (-d.point).toNat ++ ds
  else
    let k := d.point.toNat
    if ds.length ≤ k then ds ++ zeros (k - ds.length) else ds.take k ++ '.' :: ds.drop k

def Decimal.scientific (d : Decimal) : List Char :=
  let e := d.point - 1
  let mantissa := match Nat.toDigits 10 d.digits with
    | [] => []
    | [c] => [c]
    | c :: cs => c :: '.' :: cs
  mantissa ++ 'e' :: (if e < 0 then '-' else '+') :: Nat.toDigits 10 e.natAbs

def signed (negative : Bool) (cs : List Char) : String := String.ofList (if negative then '-' :: cs else cs)

def text (x : Binary64) : String :=
  match x.reading with
  | .nan => "NaN"
  | .infinite negative => signed negative "inf".toList
  | .finite negative m e => signed negative (if m = 0 then ['0'] else (shortest m e).positional)

def pointedText (x : Binary64) : String :=
  let s := x.text
  if x.isFinite && !s.toList.contains '.' then s ++ ".0" else s

def dataText (x : Binary64) : String :=
  match x.reading with
  | .finite negative m e =>
    if m = 0 then x.pointedText
    else
      let d := shortest m e
      if -5 < d.point && d.point ≤ 16 then x.pointedText else signed negative d.scientific
  | _ => x.text

end Flyover.Binary64
