import Flyover.FixedBytes
/-!
The hash function Keccak-256: a sponge with 136 bytes per block over 25 lanes of 64 bits, lane `(x, y)` at place `5y + x`.
-/

namespace Flyover.Keccak256

abbrev Lanes := List UInt64

def rotl (w : UInt64) (n : Nat) : UInt64 :=
  if n = 0 then w else (w <<< UInt64.ofNat n) ||| (w >>> UInt64.ofNat (64 - n))

def lane (s : Lanes) (x y : Nat) : UInt64 := s.getD (5 * (y % 5) + x % 5) 0

def ofFn (f : Nat → Nat → UInt64) : Lanes := (List.range 25).map fun i => f (i % 5) (i / 5)

def theta (s : Lanes) : Lanes :=
  let parity := (List.range 5).map fun x => lane s x 0 ^^^ lane s x 1 ^^^ lane s x 2 ^^^ lane s x 3 ^^^ lane s x 4
  let change := (List.range 5).map fun x => parity.getD ((x + 4) % 5) 0 ^^^ rotl (parity.getD ((x + 1) % 5) 0) 1
  ofFn fun x y => lane s x y ^^^ change.getD x 0

def rotations : List Nat :=
  [0, 1, 62, 28, 27, 36, 44, 6, 55, 20, 3, 10, 43, 25, 39, 41, 45, 15, 21, 8, 18, 2, 61, 56, 14]

def rhoPi (s : Lanes) : Lanes :=
  let turned := List.zipWith rotl s rotations
  ofFn fun x y => lane turned (x + 3 * y) x

def chi (s : Lanes) : Lanes :=
  ofFn fun x y => lane s x y ^^^ (~~~(lane s (x + 1) y) &&& lane s (x + 2) y)

def roundConstants : List UInt64 :=
  [0x0000000000000001, 0x0000000000008082, 0x800000000000808A, 0x8000000080008000, 0x000000000000808B,
    0x0000000080000001, 0x8000000080008081, 0x8000000000008009, 0x000000000000008A, 0x0000000000000088,
    0x0000000080008009, 0x000000008000000A, 0x000000008000808B, 0x800000000000008B, 0x8000000000008089,
    0x8000000000008003, 0x8000000000008002, 0x8000000000000080, 0x000000000000800A, 0x800000008000000A,
    0x8000000080008081, 0x8000000000008080, 0x0000000080000001, 0x8000000080008008]

def iota (constant : UInt64) : Lanes → Lanes
  | [] => []
  | w :: s => (w ^^^ constant) :: s

def round (s : Lanes) (constant : UInt64) : Lanes := iota constant (chi (rhoPi (theta s)))

def permute (s : Lanes) : Lanes := roundConstants.foldl round s

def word (b : Bytes) : UInt64 := UInt64.ofNat (Bytes.toNatBE b.reverse)

def wordBytes (w : UInt64) : Bytes := (Bytes.ofNatBE 8 w.toNat).reverse

def words : Bytes → List UInt64
  | a :: b :: c :: d :: e :: f :: g :: h :: rest => word [a, b, c, d, e, f, g, h] :: words rest
  | _ => []

def rate : Nat := 136

def pad (m : Bytes) : Bytes :=
  let free := rate - m.length % rate
  if free = 1 then m ++ [0x81] else m ++ 0x01 :: List.replicate (free - 2) 0 ++ [0x80]

def absorb (s : Lanes) (block : List UInt64) : Lanes :=
  permute ((List.range 25).map fun i => s.getD i 0 ^^^ block.getD i 0)

def absorbAll : (blocks : Nat) → Lanes → List UInt64 → Lanes
  | 0, s, _ => s
  | n + 1, s, ws => absorbAll n (absorb s (ws.take 17)) (ws.drop 17)

theorem length_round (s : Lanes) (c : UInt64) : (round s c).length = 25 := by
  have h (t : Lanes) : (iota c t).length = t.length := by cases t <;> rfl
  simp [round, h, chi, ofFn]

theorem length_rounds (cs : List UInt64) (s : Lanes) (h : s.length = 25) : (cs.foldl round s).length = 25 := by
  induction cs generalizing s with
  | nil => exact h
  | cons c cs ih => exact ih _ (length_round s c)

theorem length_absorb (s : Lanes) (block : List UInt64) : (absorb s block).length = 25 :=
  length_rounds _ _ (by simp)

theorem length_absorbAll (blocks : Nat) (s : Lanes) (ws : List UInt64) (h : s.length = 25) :
    (absorbAll blocks s ws).length = 25 := by
  induction blocks generalizing s ws with
  | zero => exact h
  | succ n ih => exact ih _ _ (length_absorb ..)

theorem length_wordBytes (w : UInt64) : (wordBytes w).length = 8 := by simp [wordBytes]

theorem length_flatMap_wordBytes (ws : List UInt64) : (ws.flatMap wordBytes).length = 8 * ws.length := by
  induction ws with
  | nil => rfl
  | cons w ws ih => simp [ih, length_wordBytes]; omega

def digestWords (m : Bytes) : List UInt64 :=
  (absorbAll ((pad m).length / rate) (List.replicate 25 0) (words (pad m))).take 4

theorem length_digestWords (m : Bytes) : (digestWords m).length = 4 := by
  simp [digestWords, length_absorbAll]

end Keccak256

open Keccak256 in
def keccak256 (m : Bytes) : FixedBytes 32 :=
  ⟨(digestWords m).flatMap wordBytes, by rw [length_flatMap_wordBytes, length_digestWords]⟩

end Flyover
