import Flyover.Proofs.History.Turn

/-! What histories do to the liquidity that settlements of a kind lock. -/

namespace Flyover

structure Awaiting (c : Settlement → Bool) : Prop where
  waits : ∀ t, c t → t.waits
  observed : ∀ t txid, t.state = .waitingForDeposit → c (t.observed txid) = c t

lemma awaiting_all : Awaiting Settlement.waits where
  waits _ h := h
  observed t txid h := by simp [Settlement.observed, Settlement.waits, h]

lemma awaiting_owned (owner : Address) : Awaiting fun t => t.owner = some owner && t.waits where
  waits _ h := (Bool.and_eq_true_iff.mp h).2
  observed t txid h := by
    cases t
    cases h
    rfl

def Deed.Accepts (d : Deed) (s : Store) (h : String) (quote : Quote) (t : Settlement) : Prop :=
  (∃ signature, d.step = .acceptQuote h signature) ∧
    Acceptance.Commits h d.surroundings (.start s) (d.trace s) quote t

lemma share_after_le {c : Settlement → Bool} (awaiting : Awaiting c) (d : Deed) {s : Store} (keyed : s.Keyed)
    (hn : ¬ ∃ h quote t, d.Accepts s h quote t ∧ c t) (k : String) :
    share c (d.after s).settlements[k]? ≤ share c s.settlements[k]? := by
  cases effect d keyed k with
  | kept after => rw [after]
  | accepted signature quote t step commits =>
    have hc : c t = false :=
      Bool.eq_false_iff.mpr fun hc => hn ⟨k, quote, t, ⟨⟨signature, step⟩, commits⟩, hc⟩
    rw [Deed.after, commits.lookup, share_some_of_false hc]
    exact Nat.zero_le _
  | observed txid t found state after =>
    rw [after, found]
    simp only [share, Option.elim_some, awaiting.observed t txid state]
    exact le_rfl
  | released t stored key state after =>
    rw [after, share_some_of_false (Bool.eq_false_iff.mpr fun hc => state (Settlement.waits_iff.mp (awaiting.waits t hc)))]
    exact Nat.zero_le _

lemma lockedWhere_after_le {c : Settlement → Bool} (awaiting : Awaiting c) (d : Deed) {s : Store} (keyed : s.Keyed)
    (hn : ¬ ∃ h quote t, d.Accepts s h quote t ∧ c t) :
    (d.after s).lockedWhere c ≤ s.lockedWhere c := by
  have hle := share_after_le awaiting d keyed hn
  exact Store.lockedWhere_add_le c s (d.after s) hle "" (n := 0) (hle "")

lemma lockedWhere_after_of_accepts {d : Deed} {s : Store} {h : String} {quote : Quote} {t : Settlement}
    (accepts : d.Accepts s h quote t) (c : Settlement → Bool) :
    (d.after s).lockedWhere c = s.lockedWhere c + share c (some t) := by
  have fresh : t.quoteHash ∉ s.settlements := by
    rw [← Store.lookup_eq_none_iff, accepts.2.prepared.quoteHash]
    exact accepts.2.fresh
  rw [Deed.after, accepts.2.stored]
  exact Store.lockedWhere_setSettlement c s fresh

end Flyover
