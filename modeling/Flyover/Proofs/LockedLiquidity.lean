import Flyover.Proofs.History.Locked

/-! Liquidity is never committed twice. -/

namespace Flyover

/-- In every acceptance that reads the balances of its provider, on the network and in the contract, they add up to
`B`. -/
def Balanced (B : Nat) (es : List Entry) : Prop :=
  ∀ e ∈ es, ∀ hash signature, e.deed.step = .acceptQuote hash signature → ∀ x y : Wei,
    ⟨.balance e.deed.surroundings.settings.provider, .ok x⟩ ∈ e.replies →
    ⟨.contractBalance e.deed.surroundings.settings.provider, .ok y⟩ ∈ e.replies → x.toNat + y.toNat = B

lemma locked_after_le {B : Nat} (d : Deed) {s : Store} (keyed : s.Keyed)
    (balanced : Balanced B [⟨s, d⟩])
    (h : s.locked ≤ B) : (d.after s).locked ≤ B := by
  by_cases ha : ∃ hash quote t, d.Accepts s hash quote t ∧ t.waits
  · obtain ⟨hash, quote, t, accepts, -⟩ := ha
    have hsum := lockedWhere_after_of_accepts accepts Settlement.waits
    have hshare := share_le Settlement.waits t
    obtain ⟨⟨signature, step⟩, commits⟩ := accepts
    obtain ⟨x, y, hx, hy, covered⟩ := commits.prepared.covered
    have hB := balanced ⟨s, d⟩ (List.mem_singleton_self _) hash signature step x y hx hy
    change t.requiredLiquidity.toNat ≤ x.toNat + y.toNat - s.locked at covered
    rw [Store.locked] at *
    omega
  · exact (lockedWhere_after_le awaiting_all d keyed ha).trans h

theorem locked_le_balance (ds : List Deed) (B : Nat) (balanced : Balanced B (entries .empty ds)) :
    (play .empty ds).locked ≤ B := by
  induction ds using List.reverseRecOn with
  | nil =>
    rw [play_nil, Store.locked, Store.lockedWhere_eq_zero _ _ rfl]
    exact Nat.zero_le B
  | append_singleton ds d ih =>
    rw [play_concat]
    rw [entries_concat] at balanced
    apply locked_after_le d (keyed_play keyed_empty ds) _ (ih _)
    · exact fun e he => balanced e (List.mem_append_right _ he)
    · exact fun e he => balanced e (List.mem_append_left _ he)

namespace Sample

lemma balanced_acceptedQuote : Balanced 1000000 (entries .empty acceptedQuote) := by
  intro e he hash signature step x y hx hy
  have hd : ∃ now step, e.deed = deed now step := by
    obtain ⟨before, after, hb, -⟩ := exists_of_mem_entries _ _ he
    have hm : e.deed ∈ acceptedQuote := by simp [hb]
    simp only [acceptedQuote, List.mem_cons, List.not_mem_nil, or_false] at hm
    rcases hm with h | h <;> exact ⟨_, _, h⟩
  obtain ⟨now, step, hd⟩ := hd
  obtain ⟨calls, hx⟩ := exists_answer_of_mem_replies _ _ _ hx
  obtain ⟨calls', hy⟩ := exists_answer_of_mem_replies _ _ _ hy
  simp only [hd, deed, peers, Except.ok.injEq] at hx hy
  rw [hx, hy]
  rfl

end Sample

theorem accepted_quote_within_balance : (play .empty Sample.acceptedQuote).locked ≤ 1000000 :=
  locked_le_balance Sample.acceptedQuote 1000000 Sample.balanced_acceptedQuote

end Flyover
