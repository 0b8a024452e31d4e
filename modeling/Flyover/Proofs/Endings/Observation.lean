import Flyover.Proofs.Endings.Update

/-! The deposit of a user is seen on the Bitcoin chain. -/

namespace Flyover

open Run Trace

def Settlement.observed (s : Settlement) (txid : Txid) : Settlement :=
  { s with state := .waitingForDepositConfirmations, deposit := some txid }

def observeDeposit (hash : String) (txid : Txid) : Run Unit := do
  let settlement ← (← findSettlement hash) |> require .quoteNotAccepted
  let moved ← settlement.moveTo .waitingForDepositConfirmations
  updateSettlement { moved with deposit := some txid }

namespace Observation

inductive Ending (hash : String) (txid : Txid) (σ : Surroundings) (t : Trace) : Trace → Prop
  | idle {t' : Trace} (inquired : t.Asks t') : Ending hash txid σ t t'
  | observed {t' t'' : Trace} (stored : Settlement) (inquired : t.Asks t')
      (found : t.store.settlements[hash]? = some stored) (state : stored.state = .waitingForDeposit)
      (writes : Writes σ (stored.observed txid) t' t'') : Ending hash txid σ t t''

lemma Ending.alike {hash : String} {txid : Txid} {σ : Surroundings} {t t' : Trace} (h : Ending hash txid σ t t') :
    t.store.Alike t'.store := by
  cases h with
  | idle inquired => exact inquired.alike
  | observed stored inquired found state writes => exact trans_of _ inquired.alike writes.alike

lemma observeDeposit_ends (hash : String) (txid : Txid) (σ : Surroundings) (t : Trace) :
    Ending hash txid σ t ((observeDeposit hash txid).resume σ t).trace := by
  have seen : t.Asks (t.noting (.access (.settlement hash))) := inquires_noting rfl
  rw [observeDeposit, resume_bind, findSettlement, resume_access]
  cases (σ.peers t.calls).outage (.settlement hash) with
  | some e => exact .idle seen
  | none =>
    cases found : t.store.settlements[hash]? with
    | none => exact .idle seen
    | some stored =>
      by_cases state : stored.state = .waitingForDeposit
      · have hm : stored.moveTo .waitingForDepositConfirmations =
            .ok { stored with state := .waitingForDepositConfirmations } := by
          simp [Settlement.moveTo, state, Settlement.State.canMove]
        apply Ending.observed stored seen found state
        simp only [require, pure_bind, hm, liftM_ok]
        exact updateSettlement_writes σ (stored.observed txid) _
      · have hm : stored.moveTo .waitingForDepositConfirmations = .error (.wrongState stored.state) := by
          rw [Settlement.moveTo, if_neg]
          intro hc
          cases hs : stored.state <;> simp_all [Settlement.State.canMove]
        simp only [require, pure_bind, hm, liftM_error]
        exact .idle seen

end Observation

end Flyover
