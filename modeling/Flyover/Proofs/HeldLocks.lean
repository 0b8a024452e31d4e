import Flyover.Proofs.Endings.Locks
import Flyover.Proofs.FundedPayouts

/-! What use cases do while others hold locks: a lock stops what it guards, and nothing else. -/

namespace Flyover

open Run Trace

inductive Guarded
  | acceptance (hash : String) (signature : Option String)
  | payout (given : Settlement)
  | registration (given : Settlement)

namespace Guarded

def lock : Guarded → Lock
  | acceptance .. => .liquidity
  | payout _ | registration _ => .wallet

abbrev Result : Guarded → Type
  | acceptance .. => Acceptance
  | payout _ | registration _ => Settlement

def run : (g : Guarded) → Run g.Result
  | acceptance hash signature => acceptQuote hash signature
  | payout given => callForUser given
  | registration given => registerPegin given

def Bars : Guarded → Store → Trace → Prop
  | acceptance .., s, t => t.Spares s
  | payout _, _, t | registration _, _, t => ∀ c ∈ t.calls, ¬ c.Spends

/-- How the use case fares with the locks that others hold. -/
structure Heeds (g : Guarded) (σ : Surroundings) (s : Store) : Prop where
  barred (held : σ.held g.lock) : (∀ a, (g.run.exec σ s).result ≠ .ok a) ∧ g.Bars s (g.run.exec σ s).trace
  pending (l : Lock) (waiting : (g.run.exec σ s).result = .error (.waiting l)) :
    l = g.lock ∧ σ.held l ∧ (g.run.exec σ s).trace.Spares s
  unhindered : (g.run.exec σ s).result = .error (.waiting g.lock) ∨
    g.run.exec σ s = g.run.exec (σ.holding fun _ => false) s
  same (held : Lock → Bool) (agree : held g.lock = σ.held g.lock) : g.run.exec (σ.holding held) s = g.run.exec σ s

lemma heeds_of_locks {β : Type} {g : Guarded} {before : Run β} (locks : Locks g.lock before g.run) (σ : Surroundings)
    (s : Store) (bars : g.Bars s (before.exec σ s).trace)
    (spares : ∀ b t, before.exec σ s = ⟨.ok b, t⟩ → t.Spares s) : g.Heeds σ s where
  barred held := by
    refine ⟨locks.result_ne_ok_of_held held _, ?_⟩
    rw [exec, locks.trace_of_held held]
    exact bars
  pending l waiting := by
    rcases ho : g.run.exec σ s with ⟨r, t⟩
    rw [ho] at waiting
    subst waiting
    obtain ⟨rfl, held, b, first⟩ := locks.of_waiting ho
    exact ⟨rfl, held, spares b t first⟩
  unhindered := locks.waiting_or_resume_free σ (.start s)
  same held agree := locks.resume_holding agree _

end Guarded

open Guarded in
/-- While its lock is held, an acceptance leaves everything as it is, a payout and a registration do not come to spend, and
none of them succeeds. One that is pending has changed nothing, and no other lock makes any difference. -/
theorem guarded_heeds_lock (g : Guarded) (σ : Surroundings) (s : Store) : g.Heeds σ s := by
  cases g with
  | acceptance hash signature =>
    refine heeds_of_locks (g := .acceptance hash signature) (Acceptance.accept_locks hash signature).mapError σ s ?_
      fun b t h => ?_
    · exact ((Acceptance.appraise_looks hash signature).mapError σ (start s)).spares
    · exact ((Acceptance.appraise_looks hash signature).of_resume (resume_mapError_eq_ok_iff.mp h)).spares
  | payout given =>
    refine heeds_of_locks (g := .payout given) (Payout.pay_locks given).mapError σ s ?_ fun b t h => ?_
    · exact ((Payout.checkDeposit_saves given).mapError σ (start s)).of_start
    · exact (Payout.inquires_of_resume_checkDeposit_eq_ok (resume_mapError_eq_ok_iff.mp h)).spares
  | registration given =>
    refine heeds_of_locks (g := .registration given) (Registration.register_locks given).mapError σ s ?_ fun b t h => ?_
    · exact ((Registration.prove_saves given).mapError σ (start s)).calls.of_start
    · exact ((Registration.prove_inquires given).of_resume (resume_mapError_eq_ok_iff.mp h)).spares

namespace Sample

def wealthyPeers : Peers :=
  { payers with
    answer
      | .balance _ => .ok (.ofUInt64 1000000)
      | q => payers.answer q }

def lockedFor (held : Lock → Bool) : Surroundings := ⟨⟨fun _ => wealthyPeers, 150, 1⟩, settings, held⟩

def quotedStore : Store := ((getQuote request).exec (lockedFor fun _ => false) .empty).trace.store

def ready : List (Guarded × Store) :=
  [(.acceptance hash none, quotedStore),
    (.payout (settlement .waitingForDepositConfirmations), storing .waitingForDepositConfirmations),
    (.registration (settlement .callForUserSucceeded), storing .callForUserSucceeded)]

lemma ready_succeeds : ∀ g ∈ ready, (g.1.run.exec (lockedFor fun _ => false) g.2).result.isOk := by decide +kernel

end Sample

open Sample in
theorem ready_waits_for_own_lock : ∀ g ∈ ready,
    let delayed := g.1.run.exec (lockedFor fun l => l = g.1.lock) g.2
    let undelayed := g.1.run.exec (lockedFor fun l => l ≠ g.1.lock) g.2
    delayed.result = .error (.waiting g.1.lock) ∧ delayed.trace.Spares g.2 ∧ g.1.Bars g.2 delayed.trace ∧
      undelayed = g.1.run.exec (lockedFor fun _ => false) g.2 ∧ undelayed.result.isOk := by
  rintro ⟨g, s⟩ mem delayed undelayed
  have succeeds : (g.run.exec (lockedFor fun _ => false) s).result.isOk := ready_succeeds _ mem
  obtain ⟨barred, pending, unhindered, -⟩ := guarded_heeds_lock g (lockedFor fun l => l = g.lock) s
  have held : (lockedFor fun l => l = g.lock).held g.lock := by simp [lockedFor]
  obtain ⟨failed, bars⟩ := barred held
  have waiting : delayed.result = .error (.waiting g.lock) := by
    refine unhindered.resolve_right fun same => ?_
    cases ended : (g.run.exec (lockedFor fun _ => false) s).result with
    | error h => simp [ended, Except.isOk, Except.toBool] at succeeds
    | ok a => exact failed a ((congrArg Outcome.result same).trans ended)
  obtain ⟨-, -, spares⟩ := pending g.lock waiting
  have same : undelayed = g.run.exec (lockedFor fun _ => false) s :=
    (guarded_heeds_lock g (lockedFor fun _ => false) s).same _ (by simp [lockedFor])
  exact ⟨waiting, spares, bars, same, same ▸ succeeds⟩

end Flyover
