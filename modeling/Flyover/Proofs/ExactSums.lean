import Flyover.Proofs.FundedPayouts
import Flyover.Proofs.Queries

/-! Sums of amounts are exact, in whichever order they are taken. -/

namespace Flyover

structure Wei.Totals (n : ℕ) (r : Except Error Wei) : Prop where
  fits : n < Wei.bound → ∃ a, r = .ok a ∧ a.toNat = n
  overflows : Wei.bound ≤ n → r = .error (.weiOverflow "addition")

namespace Wei

lemma totals_fit (n : ℕ) : Totals n (fit "addition" n) where
  fits small := ⟨⟨n, small⟩, fit_eq_ok_iff.mpr rfl, rfl⟩
  overflows large := fit_eq_error_iff.mpr ⟨large, rfl⟩

lemma totals_sum (l : List Wei) : Totals (l.map toNat).sum (sum l) := by
  rw [sum_eq_fit]
  exact totals_fit _

lemma sum_eq_of_perm {l l' : List Wei} (perm : l.Perm l') : sum l = sum l' := by
  rw [sum_eq_fit, sum_eq_fit, (perm.map toNat).sum_eq]

end Wei

namespace Deposit

def entryPayments (e : String × List Wei) : List (String × Wei) := e.2.map fun a => (e.1, a)

def payments (d : Deposit) : List (String × Wei) := d.outputs.toList.flatMap entryPayments

def paidTo (d : Deposit) (address : String) : ℕ :=
  ((d.payments.filter fun p => p.1 = address).map fun p => p.2.toNat).sum

lemma filter_flatMap_entryPayments (l : List (String × List Wei)) (address : String) :
    ((l.flatMap entryPayments).filter fun p => p.1 = address) =
      (l.filter fun e => e.1 = address).flatMap entryPayments := by
  induction l with
  | nil => rfl
  | cons e l ih =>
    rw [List.flatMap_cons, List.filter_append, ih]
    by_cases key : e.1 = address
    · simp [entryPayments, key]
    · simp [entryPayments, key]

variable (d : Deposit) (address : String)

lemma paidTo_eq : d.paidTo address = ((d.outputsTo address).map Wei.toNat).sum := by
  rw [paidTo, payments, filter_flatMap_entryPayments, filter_toList_eq, outputsTo, Std.ExtTreeMap.getD_eq_getD_getElem?]
  cases d.outputs[address]? with
  | none => rfl
  | some l => simp [entryPayments, Function.comp_def]

lemma totals_amountTo : Wei.Totals (d.paidTo address) (d.amountTo address) := by
  rw [paidTo_eq]
  exact Wei.totals_sum _

end Deposit

namespace Settlement

lemma lockedSum_eq_of_perm {l l' : List Settlement} (perm : l.Perm l') : lockedSum l = lockedSum l' :=
  (perm.map _).sum_eq

end Settlement

namespace Liquidity

open Run Trace

lemma locked_eq_of_perm {l l' : List Settlement} (perm : l.Perm l') : locked l = locked l' := by
  rw [locked_eq_fit, locked_eq_fit, Settlement.lockedSum_eq_of_perm perm]

lemma availableAs_eq_of_perm {listed listed' : Store → List Settlement} (perm : ∀ s, (listed s).Perm (listed' s)) :
    availableAs listed = availableAs listed' := by
  unfold availableAs
  refine bind_congr fun settings => bind_congr fun networkBalance => bind_congr fun contractBalance => ?_
  refine access_bind_congr fun s => ?_
  rw [locked_eq_of_perm (perm s)]

def asked (provider : Address) (t : Trace) : Trace :=
  (t.noting (.question (.balance provider))).noting (.question (.contractBalance provider))

structure Answered (σ : Surroundings) (t : Trace) (x y : Wei) : Prop where
  network : (σ.peers t.calls).answer (.balance σ.settings.provider) = .ok x
  contract : (σ.peers (t.noting (.question (.balance σ.settings.provider))).calls).answer
    (.contractBalance σ.settings.provider) = .ok y
  listed : (σ.peers (asked σ.settings.provider t).calls).outage (.settlementsIn Settlement.State.locking) = none

structure Leaves (x y : Wei) (locked : ℕ) (result : Except Halt Wei) : Prop where
  fits : locked < Wei.bound → x.toNat + y.toNat < Wei.bound →
    ∃ a, result = .ok a ∧ a.toNat = x.toNat + y.toNat - locked
  overflows : Wei.bound ≤ locked ∨ Wei.bound ≤ x.toNat + y.toNat →
    result = .error (.failed (.weiOverflow "addition"))

lemma leaves_of_answered {σ : Surroundings} {t : Trace} {x y : Wei} (answered : Answered σ t x y) :
    Leaves x y t.store.locked (available.resume σ t).result := by
  have hx := resume_ask_eq_ok_iff.mpr ⟨answered.network, rfl⟩
  have hy := resume_ask_eq_ok_iff.mpr ⟨answered.contract, rfl⟩
  have hl : (access (.settlementsIn Settlement.State.locking) fun s => s.settlementsIn Settlement.State.locking).resume σ
      (asked σ.settings.provider t) = ⟨.ok (t.store.settlementsIn Settlement.State.locking), _⟩ :=
    resume_access_eq_ok_iff.mpr ⟨answered.listed, rfl, rfl⟩
  rw [available, availableAs, resume_bind_of_ok (resume_settings σ t), resume_bind_of_ok hx, resume_bind_of_ok hy,
    ← asked, resume_bind_of_ok hl, locked_eq_fit, Store.lockedSum_settlementsIn, Wei.add]
  generalize t.store.locked = locked
  have locks := Wei.totals_fit locked
  have holds := Wei.totals_fit (x.toNat + y.toNat)
  constructor
  · intro small held
    obtain ⟨a, ha, a_eq⟩ := locks.fits small
    obtain ⟨b, hb, b_eq⟩ := holds.fits held
    rw [ha, hb, ← a_eq, ← b_eq]
    exact ⟨b.monus a, rfl, rfl⟩
  · intro large
    -- what is locked is summed up before the balances are added
    rcases lt_or_ge locked Wei.bound with small | beyond
    · obtain ⟨a, ha, -⟩ := locks.fits small
      rw [ha, holds.overflows (large.resolve_left small.not_ge)]
      rfl
    · rw [locks.overflows beyond]
      rfl

end Liquidity

namespace Acceptance

open Run Trace

lemma checkCapAs_eq_of_perm {listed listed' : Store → List Settlement} (perm : ∀ s, (listed s).Perm (listed' s))
    (account : TrustedAccount) (quote : Quote) : checkCapAs listed account quote = checkCapAs listed' account quote := by
  refine access_bind_congr fun s => ?_
  rw [Liquidity.locked_eq_of_perm (perm s)]

def requested (s : Store) (account : TrustedAccount) (quote : Quote) : ℕ :=
  s.lockedBy account.address + quote.value.toNat + quote.gasFee.toNat

structure Weighed (cap : Wei) (n : ℕ) (result : Except Halt Unit) : Prop where
  within : n ≤ cap.toNat → result = .ok ()
  exceeded : cap.toNat < n → n < Wei.bound →
    ∃ a : Wei, a.toNat = n ∧ result = .error (.failed (.lockingCapExceeded a cap))
  overflows : Wei.bound ≤ n → result = .error (.failed (.weiOverflow "addition"))

lemma weighed_of_kept {σ : Surroundings} {t : Trace} {account : TrustedAccount}
    (kept : (σ.peers t.calls).outage (.settlementsOf account.address Settlement.State.locking) = none) (quote : Quote) :
    Weighed account.cap (requested t.store account quote) ((checkCap account quote).resume σ t).result := by
  have hl : (Run.settlementsOf account.address Settlement.State.locking).resume σ t =
      ⟨.ok (t.store.settlementsOf account.address Settlement.State.locking), _⟩ :=
    resume_access_eq_ok_iff.mpr ⟨kept, rfl, rfl⟩
  rw [checkCap_eq, resume_bind_of_ok hl, Store.lockedSum_settlementsOf, ← requested]
  have total := Wei.totals_fit (requested t.store account quote)
  refine ⟨fun within => ?_, fun exceeded small => ?_, fun large => ?_⟩
  · obtain ⟨a, ha, a_eq⟩ := total.fits (within.trans_lt account.cap.toNat_lt)
    have covered : ¬ account.cap < a := Nat.not_lt.mpr (a_eq ▸ within)
    rw [ha, liftM_ok, pure_bind, if_neg covered]
    rfl
  · obtain ⟨a, ha, a_eq⟩ := total.fits small
    have beyond : account.cap < a := Wei.lt_iff.mpr (a_eq ▸ exceeded)
    rw [ha, liftM_ok, pure_bind, if_pos beyond]
    exact ⟨a, a_eq, rfl⟩
  · rw [total.overflows large]
    rfl

end Acceptance

open Acceptance Liquidity in
/-- A sum is the exact one or it overflows, in any order of what is added up. So a payment is totalled exactly, and in
whichever order the settlements are listed, what is locked is taken off the balances and weighed against a cap exactly. -/
theorem sums_are_exact_in_any_order :
    (∀ l : List Wei, Wei.Totals (l.map Wei.toNat).sum (Wei.sum l)) ∧
      (∀ l l' : List Wei, l.Perm l' → Wei.sum l = Wei.sum l') ∧
      (∀ (d : Deposit) (address : String), Wei.Totals (d.paidTo address) (d.amountTo address)) ∧
      (∀ listed : Store → List Settlement, (∀ s, (listed s).Perm (s.settlementsIn Settlement.State.locking)) →
        availableAs listed = available) ∧
      (∀ (σ : Surroundings) (t : Trace) (x y : Wei), Answered σ t x y →
        Leaves x y t.store.locked (available.resume σ t).result) ∧
      ∀ (account : TrustedAccount) (quote : Quote),
        (∀ listed : Store → List Settlement,
          (∀ s, (listed s).Perm (s.settlementsOf account.address Settlement.State.locking)) →
            checkCapAs listed account quote = checkCap account quote) ∧
        ∀ (σ : Surroundings) (t : Trace),
          (σ.peers t.calls).outage (.settlementsOf account.address Settlement.State.locking) = none →
            Weighed account.cap (requested t.store account quote) ((checkCap account quote).resume σ t).result := by
  refine ⟨Wei.totals_sum, fun _ _ => Wei.sum_eq_of_perm, Deposit.totals_amountTo, fun listed perm => ?_,
    fun _ _ _ _ => leaves_of_answered, fun account quote => ⟨fun listed perm => ?_, fun _ _ kept => weighed_of_kept kept quote⟩⟩
  · exact availableAs_eq_of_perm perm
  · exact checkCapAs_eq_of_perm perm account quote

namespace Sample

def locking (hash : String) (amount : UInt64) : Settlement :=
  { settlement .waitingForDeposit with
    quoteHash := hash
    requiredLiquidity := .ofUInt64 amount
    owner := some Recommendation.zeroAddress }

def lockingTwo : Store :=
  ((storing .callForUserSucceeded).setSettlement (locking "bb" 500)).setSettlement (locking "cc" 300)

def cappedAccount : TrustedAccount := ⟨Recommendation.zeroAddress, "", 0, .ofUInt64 1819⟩

end Sample

open Acceptance Liquidity Sample in
theorem two_lockings_reversed :
    (∃ a, ((availableAs fun s => (s.settlementsIn Settlement.State.locking).reverse).exec paying lockingTwo).result = .ok a ∧
      a.toNat = 200) ∧
    (∃ a : Wei, a.toNat = 1820 ∧ ((checkCapAs (fun s =>
      (s.settlementsOf Recommendation.zeroAddress Settlement.State.locking).reverse) cappedAccount quote).exec paying
        lockingTwo).result = .error (.failed (.lockingCapExceeded a (.ofUInt64 1819)))) ∧
    Wei.sum [⟨Wei.bound - 2, by decide⟩, 0, .ofUInt64 2] = .error (.weiOverflow "addition") ∧
    Wei.sum [.ofUInt64 2, ⟨Wei.bound - 2, by decide⟩, 0] = .error (.weiOverflow "addition") := by
  obtain ⟨totals, order, -, listings, left, caps⟩ := sums_are_exact_in_any_order
  have locked : lockingTwo.locked = 800 := by
    rw [← Store.lockedSum_settlementsIn]
    decide
  have owed : requested lockingTwo cappedAccount quote = 1820 := by
    rw [requested, ← Store.lockedSum_settlementsOf]
    decide
  have overflow : Wei.sum [⟨Wei.bound - 2, by decide⟩, 0, .ofUInt64 2] = .error (.weiOverflow "addition") :=
    (totals _).overflows (by decide)
  obtain ⟨capListings, weighed⟩ := caps cappedAccount quote
  refine ⟨?_, ?_, overflow, (order _ _ ?_).trans overflow⟩
  · rw [listings _ fun s => List.reverse_perm _]
    have leaves := left paying (.start lockingTwo) (.ofUInt64 600) (.ofUInt64 400) ⟨rfl, rfl, rfl⟩
    rw [show (Trace.start lockingTwo).store = lockingTwo from rfl, locked] at leaves
    exact leaves.fits (by decide) (by decide)
  · have exceeds := weighed paying (.start lockingTwo) rfl
    rw [show (Trace.start lockingTwo).store = lockingTwo from rfl, owed] at exceeds
    rw [show Recommendation.zeroAddress = cappedAccount.address from rfl, capListings _ fun s => List.reverse_perm _]
    exact exceeds.exceeded (by decide) (by decide)
  · exact (List.perm_append_singleton _ [_, _]).symm

end Flyover
