import Flyover.Proofs.Endings.Update
import Mathlib.Algebra.BigOperators.Group.Finset.Basic
import Mathlib.Algebra.Order.BigOperators.Group.Finset

/-! The liquidity that stored settlements lock, as a sum over quote hashes. -/

namespace Flyover

namespace Settlement

def waits (t : Settlement) : Bool := t.state = .waitingForDeposit || t.state = .waitingForDepositConfirmations

lemma waits_iff {t : Settlement} : t.waits ↔ t.state ∈ State.locking := by
  simp [waits, State.locking]

lemma waits_eq_contains (t : Settlement) : t.waits = State.locking.contains t.state := by
  rw [Bool.eq_iff_iff, waits_iff, List.contains_iff_mem]

def lockedSum (l : List Settlement) : Nat := (l.map fun s => s.requiredLiquidity.toNat).sum

end Settlement

def share (c : Settlement → Bool) (o : Option Settlement) : Nat :=
  o.elim 0 fun t => if c t then t.requiredLiquidity.toNat else 0

variable {c : Settlement → Bool} {t : Settlement}

lemma share_some_of_false (h : c t = false) : share c (some t) = 0 := by
  simp [share, h]

lemma share_some_of_true (h : c t) : share c (some t) = t.requiredLiquidity.toNat := by
  simp [share, h]

lemma share_le (c : Settlement → Bool) (t : Settlement) : share c (some t) ≤ t.requiredLiquidity.toNat := by
  cases h : c t with
  | false => simp [share_some_of_false h]
  | true => simp [share_some_of_true h]

namespace Store

def lockedWhere (s : Store) (c : Settlement → Bool) : Nat :=
  ∑ hash ∈ s.settlements.keys.toFinset, share c s.settlements[hash]?

def locked (s : Store) : Nat := s.lockedWhere Settlement.waits

def lockedBy (s : Store) (address : Address) : Nat := s.lockedWhere fun t => t.owner = some address && t.waits

variable (s s' : Store) (c)

lemma mem_keys_iff {k : String} : k ∈ s.settlements.keys.toFinset ↔ k ∈ s.settlements := by
  rw [List.mem_toFinset, Std.ExtTreeMap.mem_keys]

lemma lockedWhere_eq_sum {K : Finset String} (hK : ∀ k ∈ s.settlements, k ∈ K) :
    s.lockedWhere c = ∑ k ∈ K, share c s.settlements[k]? := by
  apply Finset.sum_subset
  · intro k hk
    exact hK k (s.mem_keys_iff.mp hk)
  · intro k _ hk
    rw [mem_keys_iff, ← lookup_eq_none_iff] at hk
    rw [hk]
    rfl

lemma lockedWhere_eq_zero (h : s.settlements = ∅) : s.lockedWhere c = 0 := by
  rw [s.lockedWhere_eq_sum c (K := ∅) (by simp [h]), Finset.sum_empty]

/-- If no share grows, the sum shrinks by at least what one of them loses. -/
lemma lockedWhere_add_le (hle : ∀ k : String, share c s'.settlements[k]? ≤ share c s.settlements[k]?) (h : String)
    {n : Nat} (hn : share c s'.settlements[h]? + n ≤ share c s.settlements[h]?) :
    s'.lockedWhere c + n ≤ s.lockedWhere c := by
  let K := insert h (s.settlements.keys.toFinset ∪ s'.settlements.keys.toFinset)
  have hs : ∀ k ∈ s.settlements, k ∈ K := fun k hk => by simp [K, hk]
  have hs' : ∀ k ∈ s'.settlements, k ∈ K := fun k hk => by simp [K, hk]
  have hK : h ∈ K := Finset.mem_insert_self _ _
  have he := Finset.sum_le_sum fun k (_ : k ∈ K.erase h) => hle k
  rw [s.lockedWhere_eq_sum c hs, s'.lockedWhere_eq_sum c hs', ← Finset.add_sum_erase K _ hK,
    ← Finset.add_sum_erase K _ hK]
  omega

lemma lockedWhere_setSettlement {t : Settlement} (fresh : t.quoteHash ∉ s.settlements) :
    (s.setSettlement t).lockedWhere c = s.lockedWhere c + share c (some t) := by
  have others : ∀ k ∈ s.settlements.keys.toFinset,
      share c (s.setSettlement t).settlements[k]? = share c s.settlements[k]? := by
    intro k hk
    rw [lookup_setSettlement, if_neg]
    rintro rfl
    exact fresh (s.mem_keys_iff.mp hk)
  have keys : ∀ k ∈ (s.setSettlement t).settlements, k ∈ insert t.quoteHash s.settlements.keys.toFinset := by
    intro k hk
    rw [setSettlement, Std.ExtTreeMap.mem_insert, Std.compare_eq_iff_eq] at hk
    rcases hk with rfl | hk
    · exact Finset.mem_insert_self _ _
    · exact Finset.mem_insert_of_mem (s.mem_keys_iff.mpr hk)
  rw [(s.setSettlement t).lockedWhere_eq_sum c keys, Finset.sum_insert (mt s.mem_keys_iff.mp fresh), lookup_setSettlement_self,
    Finset.sum_congr rfl others, Nat.add_comm]
  rfl

lemma le_lockedWhere {hash : String} {t : Settlement} (stored : s.settlements[hash]? = some t) (kind : c t) :
    t.requiredLiquidity.toNat ≤ s.lockedWhere c := by
  have mem := s.mem_keys_iff.mpr (mem_settlements_of_lookup stored)
  have le := Finset.single_le_sum (f := fun k => share c s.settlements[k]?) (fun _ _ => Nat.zero_le _) mem
  rwa [stored, share_some_of_true kind] at le

lemma lockedSum_filter (l : List Settlement) :
    Settlement.lockedSum (l.filter c) = (l.map fun t => share c (some t)).sum := by
  induction l with
  | nil => rfl
  | cons t l ih =>
    rw [List.map_cons, List.sum_cons, ← ih, share, Option.elim_some]
    cases h : c t <;> simp [Settlement.lockedSum, h]

lemma lockedSum_settlementsWhere : Settlement.lockedSum (s.settlementsWhere c) = s.lockedWhere c := by
  have entries : ∀ e ∈ s.settlements.toList, share c (some e.2) = share c s.settlements[e.1]? := by
    intro e he
    rw [Std.ExtTreeMap.mem_toList_iff_getElem?_eq_some.mp he]
  rw [settlementsWhere, lockedSum_filter, lockedWhere, List.map_map, List.sum_toFinset _ Std.ExtTreeMap.nodup_keys,
    ← Std.ExtTreeMap.map_fst_toList_eq_keys, List.map_map]
  exact congrArg List.sum (List.map_congr_left entries)

lemma lockedSum_settlementsIn : Settlement.lockedSum (s.settlementsIn Settlement.State.locking) = s.locked := by
  rw [settlementsIn, lockedSum_settlementsWhere, ← funext Settlement.waits_eq_contains, locked]

lemma lockedSum_settlementsOf (address : Address) :
    Settlement.lockedSum (s.settlementsOf address Settlement.State.locking) = s.lockedBy address := by
  simp only [settlementsOf, lockedSum_settlementsWhere, ← Settlement.waits_eq_contains, lockedBy]

end Store

end Flyover
