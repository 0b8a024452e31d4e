import Flyover.Error
/-!
Arithmetic on amounts that fails instead of wrapping around.
-/

namespace Flyover.Wei

def fit (operation : String) (n : Nat) : Except Error Wei :=
  match ofNat? n with
  | some a => .ok a
  | none => .error (.weiOverflow operation)

theorem fit_eq_ok_iff {operation : String} {n : Nat} {a : Wei} : fit operation n = .ok a ↔ a.toNat = n := by
  unfold fit
  rw [← ofNat?_eq_some_iff]
  cases ofNat? n <;> simp

theorem fit_eq_error_iff {operation : String} {n : Nat} {e : Error} :
    fit operation n = .error e ↔ bound ≤ n ∧ e = .weiOverflow operation := by
  unfold fit ofNat?
  by_cases h : n < bound
  · rw [dif_pos h]
    exact ⟨nofun, fun he => absurd h (Nat.not_lt.2 he.1)⟩
  · rw [dif_neg h]
    exact ⟨fun he => ⟨Nat.le_of_not_lt h, (Except.error.inj he).symm⟩, fun he => he.2 ▸ rfl⟩

def add (a b : Wei) : Except Error Wei := fit "addition" (a.toNat + b.toNat)

def sub (a b : Wei) : Except Error Wei :=
  if b.toNat ≤ a.toNat then .ok (a.monus b) else .error (.weiOverflow "subtraction")

def mul (a b : Wei) : Except Error Wei := fit "multiplication" (a.toNat * b.toNat)

def div (a b : Wei) : Except Error Wei :=
  if b = 0 then .error (.weiOverflow "division") else fit "division" (a.toNat / b.toNat)

def mulDiv (a b c : Wei) : Except Error Wei := do (← mul a b).div c

def sum (amounts : List Wei) : Except Error Wei := amounts.foldlM add 0

def toUInt64 (a : Wei) : Except Error UInt64 :=
  if a.toNat < UInt64.size then .ok (UInt64.ofNat a.toNat) else .error (.weiOverflow "u64 conversion")

def toSatoshis (a : Wei) : Except Error UInt64 :=
  toUInt64 ⟨a.toNat / perSatoshi, Nat.lt_of_le_of_lt (Nat.div_le_self ..) a.toNat_lt⟩

def parse (s : String) : Except Error Wei :=
  match ofText? s with
  | some a => .ok a
  | none => .error (.malformedWei s)

end Flyover.Wei
