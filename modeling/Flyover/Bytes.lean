/-!
Byte strings and their big-endian reading as numbers.
-/

namespace Flyover

abbrev Bytes := List UInt8

namespace Bytes

def toNatBE (b : Bytes) : Nat := b.foldl (fun n x => n * 256 + x.toNat) 0

def ofNatBE : (width n : Nat) → Bytes
  | 0, _ => []
  | w + 1, n => ofNatBE w (n / 256) ++ [UInt8.ofNat (n % 256)]

def ofText (s : String) : Bytes := s.toList.flatMap String.utf8EncodeChar

@[simp] theorem length_ofNatBE (w n : Nat) : (ofNatBE w n).length = w := by
  induction w generalizing n with
  | zero => rfl
  | succ w ih => simp [ofNatBE, ih]

end Bytes

end Flyover
