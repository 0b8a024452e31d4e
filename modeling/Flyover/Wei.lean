import Flyover.Text.Blank
import Flyover.Text.Digits
/-!
Amounts of wei: natural numbers of at most 256 bits, and their decimal text.
-/

namespace Flyover

abbrev Wei.bound : Nat := 0x10000000000000000000000000000000000000000000000000000000000000000

structure Wei where
  toNat : Nat
  toNat_lt : toNat < Wei.bound
deriving DecidableEq

namespace Wei

theorem ext_toNat {a b : Wei} (h : a.toNat = b.toNat) : a = b := by
  cases a; cases b; simp_all

def ofNat? (n : Nat) : Option Wei := if h : n < bound then some ⟨n, h⟩ else none

theorem ofNat?_eq_some_iff {n : Nat} {a : Wei} : ofNat? n = some a ↔ a.toNat = n := by
  unfold ofNat?
  split
  · simp only [Option.some.injEq]
    exact ⟨fun h => h ▸ rfl, fun h => ext_toNat h.symm⟩
  · rename_i h
    simp only [reduceCtorEq, false_iff]
    exact fun e => h (e ▸ a.toNat_lt)

@[simp] theorem ofNat?_toNat (a : Wei) : ofNat? a.toNat = some a := ofNat?_eq_some_iff.2 rfl

def ofUInt64 (n : UInt64) : Wei := ⟨n.toNat, Nat.lt_trans n.toNat_lt (by decide)⟩

instance : OfNat Wei 0 := ⟨⟨0, by decide⟩⟩

@[simp] theorem toNat_zero : (0 : Wei).toNat = 0 := rfl

instance : Inhabited Wei := ⟨0⟩

instance : LE Wei := ⟨fun a b => a.toNat ≤ b.toNat⟩

instance : LT Wei := ⟨fun a b => a.toNat < b.toNat⟩

instance (a b : Wei) : Decidable (a ≤ b) := inferInstanceAs (Decidable (a.toNat ≤ b.toNat))

instance (a b : Wei) : Decidable (a < b) := inferInstanceAs (Decidable (a.toNat < b.toNat))

theorem le_iff {a b : Wei} : a ≤ b ↔ a.toNat ≤ b.toNat := Iff.rfl

theorem lt_iff {a b : Wei} : a < b ↔ a.toNat < b.toNat := Iff.rfl

instance : Ord Wei := ⟨fun a b => compare a.toNat b.toNat⟩

instance : Std.TransOrd Wei where
  eq_swap {a b} := @Std.OrientedCmp.eq_swap Nat compare _ a.toNat b.toNat
  isLE_trans {a b c} h h' := @Std.TransCmp.isLE_trans Nat compare _ a.toNat b.toNat c.toNat h h'

instance : Std.LawfulEqOrd Wei where
  eq_of_compare {a b} h := ext_toNat (@Std.LawfulEqCmp.eq_of_compare Nat compare _ a.toNat b.toNat h)

def monus (a b : Wei) : Wei := ⟨a.toNat - b.toNat, Nat.lt_of_le_of_lt (Nat.sub_le ..) a.toNat_lt⟩

@[simp] theorem toNat_monus (a b : Wei) : (a.monus b).toNat = a.toNat - b.toNat := rfl

def wrappingMul (a b : Wei) : Wei := ⟨a.toNat * b.toNat % bound, Nat.mod_lt _ (by decide)⟩

def perSatoshi : Nat := 10000000000

def ofSatoshis (n : UInt64) : Wei := (ofUInt64 n).wrappingMul ⟨perSatoshi, by decide⟩

def text (a : Wei) : String := Text.numeral a.toNat

instance : ToString Wei := ⟨text⟩

def ofDigits? (cs : List Char) : Option Wei :=
  match (cs.filter (· ≠ '_')).mapM Text.digit? with
  | some ds => ofNat? (Text.ofDigits 10 ds)
  | none => none

def ofText? (s : String) : Option Wei := ofDigits? (Text.trimChars s.toList)

def malformedMessage (s : String) : String := "invalid wei amount: " ++ s

end Wei

end Flyover
