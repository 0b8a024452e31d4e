import Flyover.Bytes
/-!
Byte strings of a fixed length.
-/

namespace Flyover

structure FixedBytes (size : Nat) where
  toBytes : Bytes
  length_toBytes : toBytes.length = size
deriving DecidableEq

namespace FixedBytes

variable {size : Nat}

theorem ext_toBytes {a b : FixedBytes size} (h : a.toBytes = b.toBytes) : a = b := by
  cases a; cases b; simp_all

def ofBytes? (b : Bytes) : Option (FixedBytes size) := if h : b.length = size then some ⟨b, h⟩ else none

theorem ofBytes?_eq_some_iff {b : Bytes} {a : FixedBytes size} : ofBytes? b = some a ↔ a.toBytes = b := by
  unfold ofBytes?
  split
  · simp only [Option.some.injEq]
    exact ⟨fun h => h ▸ rfl, fun h => ext_toBytes h.symm⟩
  · rename_i h
    simp only [reduceCtorEq, false_iff]
    exact fun e => h (e ▸ a.length_toBytes)

instance : Ord (FixedBytes size) := ⟨fun a b => compare a.toBytes b.toBytes⟩

instance : Std.TransOrd (FixedBytes size) where
  eq_swap {a b} := @Std.OrientedCmp.eq_swap Bytes compare _ a.toBytes b.toBytes
  isLE_trans {a b c} h h' := @Std.TransCmp.isLE_trans Bytes compare _ a.toBytes b.toBytes c.toBytes h h'

instance : Std.LawfulEqOrd (FixedBytes size) where
  eq_of_compare {a b} h := ext_toBytes (@Std.LawfulEqCmp.eq_of_compare Bytes compare _ a.toBytes b.toBytes h)

end FixedBytes

end Flyover
