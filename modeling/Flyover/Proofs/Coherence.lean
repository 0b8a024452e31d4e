import Flyover.Proofs.ErrorTree
import Flyover.Proofs.History.Reached
import Flyover.Proofs.Run.Failure

/-! What is stored fits together: settlements have what belongs to their states, and what they refer to is there. -/

namespace Flyover

open Run Trace

namespace Settlement

/-- The settlement knows the deposit and the receipts that its state tells of, and no others. -/
structure Coherent (t : Settlement) : Prop where
  deposit : t.deposit = none ↔ t.state = .waitingForDeposit ∨ t.state = .timeForDepositElapsed
  uncalled : t.state = .waitingForDeposit ∨ t.state = .waitingForDepositConfirmations ∨ t.state = .timeForDepositElapsed →
    t.callForUser = .none
  called : t.state = .callForUserSucceeded ∨ t.state = .registerPeginSucceeded ∨ t.state = .registerPeginFailed →
    t.callForUser.hash.isSome
  unregistered : t.state ≠ .registerPeginSucceeded → t.state ≠ .registerPeginFailed → t.registerPegin = .none
  registered : t.state = .registerPeginSucceeded → t.registerPegin.hash.isSome

structure IsBlank (t : Settlement) : Prop where
  state : t.state = .waitingForDeposit
  deposit : t.deposit = none
  callForUser : t.callForUser = .none
  registerPegin : t.registerPegin = .none

lemma IsBlank.coherent {t : Settlement} (blank : t.IsBlank) : t.Coherent := by
  have state := blank.state
  exact ⟨by simp [blank.deposit, state], fun _ => blank.callForUser, by simp [state], fun _ _ => blank.registerPegin,
    by simp [state]⟩

lemma Advance.coherent {t t' : Settlement} (advance : t.Advance t') (coherent : t.Coherent) : t'.Coherent := by
  have unregistered := coherent.unregistered
  cases advance with
  | observed txid state =>
    have uncalled := coherent.uncalled (.inl state)
    simp [state] at unregistered
    constructor <;> simp [Settlement.observed, uncalled, unregistered]
  | lapsed state =>
    have unseen := coherent.deposit.mpr (.inl state)
    have uncalled := coherent.uncalled (.inl state)
    simp [state] at unregistered
    constructor <;> simp [Expiry.lapsed, unseen, uncalled, unregistered]
  | refused state =>
    have seen := coherent.deposit
    simp [state] at seen unregistered
    constructor <;> simp [seen, unregistered]
  | paid answer state =>
    have seen := coherent.deposit
    simp [state] at seen unregistered
    cases answer <;> constructor <;> simp [Payout.settled, seen, unregistered, Transaction.ofReceipt]
  | registered answer state =>
    have seen := coherent.deposit
    have called := coherent.called (.inl state)
    simp [state] at seen
    cases answer <;> constructor <;> simp [Registration.settled, seen, called, Transaction.ofReceipt]

end Settlement

lemma Acceptance.blank_of_entered {hash : String} {signature : Option String} {σ : Surroundings} {t : Trace}
    {h : String} {u : Settlement} (absent : t.store.settlements[h]? = none)
    (stored : ((accept hash signature).resume σ t).trace.store.settlements[h]? = some u) : u.IsBlank := by
  have concluded := accept_concludes hash signature σ t
  generalize (accept hash signature).resume σ t = o at concluded stored
  cases concluded with
  | halted inquired => cases absent.symm.trans (inquired.store_eq ▸ stored)
  | known found looked => cases absent.symm.trans (looked.store_eq ▸ stored)
  | @entered quote account quoteHash x s t' considered fresh within prepares inquired =>
    dsimp only [entering] at stored
    rw [Store.lookup_setSettlement, inquired.store_eq, absent] at stored
    split at stored
    · cases stored
      rw [prepares.drafted]
      exact ⟨rfl, rfl, rfl, rfl⟩
    · cases stored

namespace Deed

variable {d : Deed} {s : Store} {h : String}

lemma stored_before (keyed : s.Keyed) {t' : Settlement} (stored : (d.after s).settlements[h]? = some t') :
    (∃ t : Settlement, s.settlements[h]? = some t ∧ (t' = t ∨ t.Advance t' ∨ d.Closes s h t')) ∨ t'.IsBlank := by
  cases ht : s.settlements[h]? with
  | some t =>
    obtain ⟨u, after, came⟩ := stored_after keyed ht
    cases after.symm.trans stored
    exact .inl ⟨t, rfl, came⟩
  | none =>
    right
    cases effect d keyed h with
    | kept after => cases (after.trans ht).symm.trans stored
    | accepted signature quote u step commits =>
      rw [Deed.after, trace_of_acceptQuote step] at stored
      exact Acceptance.blank_of_entered ht stored
    | observed txid u found state after => cases found.symm.trans ht
    | released u mem key state after => exact absurd mem ((s.lookup_eq_none_iff h).mp ht)

lemma coherent_after (keyed : s.Keyed) (coherent : ∀ (h : String) (t : Settlement), s.settlements[h]? = some t → t.Coherent)
    (given : ∀ given, d.step.given? = some given → given.Coherent) {t' : Settlement}
    (stored : (d.after s).settlements[h]? = some t') : t'.Coherent := by
  rcases stored_before keyed stored with
    ⟨t, ht, rfl | advance | ⟨copy, state, step, unread, key, move, rfl⟩⟩ | blank
  · exact coherent h _ ht
  · exact advance.coherent (coherent h t ht)
  · exact (advance_of_closing step move).coherent (given copy (Step.given?_of_closing? step))
  · exact blank.coherent

lemma priced_after (keyed : s.Keyed) (priced : ∀ (h : String) (q : Quote), s.quotes[h]? = some q → h ∈ s.pricing) :
    ∀ (h : String) (q : Quote), (d.after s).quotes[h]? = some q → h ∈ (d.after s).pricing := by
  intro h q hq
  by_cases other : ∀ request, d.step ≠ .getQuote request
  · have alike := alike_after keyed other
    rw [alike.pricing]
    exact priced h q (alike.quotes ▸ hq)
  push Not at other
  obtain ⟨request, step⟩ := other
  have concluded := Quoting.price_concludes request d.surroundings (.start s)
  have trace := trace_of_getQuote (s := s) step
  rw [after] at hq ⊢
  generalize (Quoting.price request).resume d.surroundings (.start s) = o at concluded trace
  rw [trace] at hq ⊢
  cases concluded with
  | halted inquired =>
    rw [inquired.store_eq] at hq ⊢
    exact priced h q hq
  | priced drafts inquired =>
    dsimp only [Quoting.putting, Store.putQuote] at hq ⊢
    rw [inquired.store_eq, Std.ExtTreeMap.getElem?_insert] at hq
    rw [inquired.store_eq, Std.ExtTreeMap.mem_insert]
    split at hq
    · exact .inl ‹_›
    · exact .inr (priced h q hq)

end Deed

structure Store.Coherent (s : Store) : Prop where
  keyed : s.Keyed
  addressed : s.Addressed
  quoted : s.Quoted
  priced : ∀ (h : String) (q : Quote), s.quotes[h]? = some q → h ∈ s.pricing
  settlements : ∀ (h : String) (t : Settlement), s.settlements[h]? = some t → t.Coherent

lemma quotes_trusting (accounts : List (Signed TrustedAccount)) : (trusting accounts).quotes = ∅ := by
  have h (s : Store) : (accounts.foldl Store.putAccount s).quotes = s.quotes := by
    induction accounts generalizing s with
    | nil => rfl
    | cons a accounts ih => exact ih (s.putAccount a)
  exact h .empty

namespace Store

variable {s : Store}

lemma coherent_trusting (accounts : List (Signed TrustedAccount)) : (trusting accounts).Coherent where
  keyed := keyed_trusting accounts
  addressed := addressed_trusting accounts
  quoted := ⟨fun h q hq => by simp [quotes_trusting] at hq, fun h t ht => by simp [settlements_trusting] at ht⟩
  priced h q hq := by simp [quotes_trusting] at hq
  settlements h t ht := by simp [settlements_trusting] at ht

lemma Coherent.after (coherent : s.Coherent) (d : Deed) (given : ∀ given, d.step.given? = some given → given.Coherent) :
    (d.after s).Coherent where
  keyed := keyed_after d coherent.keyed
  addressed := by
    intro address a ha
    rw [Deed.accounts_after coherent.keyed] at ha
    exact coherent.addressed address a ha
  quoted := Deed.quoted_after coherent.keyed coherent.quoted
  priced := Deed.priced_after coherent.keyed coherent.priced
  settlements h t' stored := Deed.coherent_after coherent.keyed coherent.settlements given stored

end Store

/-! Where the store does not fail, a status is told of each settlement, and no expiry misses a quote. -/

section

variable {s : Store} {σ : Surroundings} {t : Trace} {t' : Trace}

lemma result_quoteStatus (kept : ∀ calls a, (σ.peers calls).outage a = none) {h : String} {q : Quote} {u : Settlement}
    {p : Pricing} (quoted : s.quotes[h]? = some q) (found : s.settlements[h]? = some u) (priced : s.pricing[h]? = some p) :
    ((quoteStatus h).exec σ s).result = .ok ⟨q, u, p⟩ := by
  have pricing : s.pricingOf h = p := by
    rw [Store.pricingOf, Std.ExtTreeMap.getD_eq_getD_getElem?, priced, Option.getD_some]
  have told : ∃ t', (quoteStatus h).resume σ (.start s) = ⟨.ok ⟨q, u, p⟩, t'⟩ := by
    simp only [quoteStatus, findQuote, findSettlement, findPricing, resume_mapError_eq_ok_iff, resume_bind_eq_ok_iff,
      resume_access_eq_ok_iff, resume_require_eq_ok_iff, resume_pure_eq_ok_iff]
    exact ⟨_, some q, _, ⟨kept _ _, quoted, rfl⟩, q, _, ⟨rfl, rfl⟩, some u, _, ⟨kept _ _, found, rfl⟩, u, _, ⟨rfl, rfl⟩, p, _,
      ⟨kept _ _, pricing, rfl⟩, rfl, rfl⟩
  obtain ⟨t', told⟩ := told
  rw [exec, told]

def Expiry.unquoted : Error := .illegalState "retained quote without a quote"

lemma Expiry.error_of_close (kept : ∀ calls a, (σ.peers calls).outage a = none) {given : Settlement} {q : Quote}
    (quoted : t.store.quotes[given.quoteHash]? = some q) {halt : Halt}
    (halted : (close given).resume σ t = ⟨.error halt, t'⟩) :
    ∃ e, halt = .failed e ∧ ((∃ m, e = .storage m) ∨ ∃ m, e = .illegalState m ∧ e ≠ unquoted) := by
  rw [close] at halted
  split at halted
  · cases halted
  simp only [findQuote, resume_bind_eq_error_iff, resume_check_eq_error_iff, resume_check_eq_ok_iff,
    resume_access_eq_error_iff, resume_access_eq_ok_iff, resume_require_eq_error_iff, resume_require_eq_ok_iff,
    resume_now_eq_error_iff, resume_now_eq_ok_iff, resume_lift_eq_error_iff, resume_lift_eq_ok_iff,
    resume_updateSettlement_eq_error_iff, resume_pure_eq_error_iff, and_false, exists_false, or_false, kept] at halted
  rcases halted with ⟨-, rfl, -⟩ | ⟨_, _, ⟨state, rfl⟩, h⟩
  · exact ⟨_, rfl, .inr ⟨_, rfl, by simp [unquoted]⟩⟩
  rcases h with ⟨_, h, -⟩ | ⟨_, _, ⟨-, rfl, rfl⟩, h⟩
  · cases h
  rcases h with ⟨absent, -, -⟩ | ⟨quote, _, ⟨-, rfl⟩, h⟩
  · cases absent.symm.trans quoted
  rcases h with h | ⟨_, _, ⟨rfl, rfl⟩, h⟩
  · cases h
  rcases h with ⟨-, rfl, -⟩ | ⟨_, _, ⟨-, rfl⟩, h⟩
  · exact ⟨_, rfl, .inr ⟨_, rfl, by simp [unquoted]⟩⟩
  rcases h with ⟨e, immovable, -, -⟩ | ⟨closed, _, ⟨-, rfl⟩, ⟨_, h, -⟩ | ⟨-, -, rfl⟩, -⟩
  · simp [Settlement.moveTo, of_decide_eq_true state, Settlement.State.canMove] at immovable
  · cases h
  · exact ⟨_, rfl, .inl ⟨_, rfl⟩⟩

lemma Expiry.not_node_unquoted (kept : ∀ calls a, (σ.peers calls).outage a = none) {given : Settlement} {q : Quote}
    (quoted : s.quotes[given.quoteHash]? = some q) {e : Error}
    (failed : ((expireQuote given).exec σ s).result = .error (.failed e)) : ¬ Error.Node unquoted e := by
  obtain ⟨t', resumed⟩ : ∃ t', (expireQuote given).resume σ (.start s) = ⟨.error (.failed e), t'⟩ := by
    rw [exec] at failed
    exact ⟨_, by rw [← failed]⟩
  obtain ⟨halt, halted, wrapped⟩ := resume_mapError_eq_error_iff.mp resumed
  obtain ⟨e₀, rfl, why⟩ := error_of_close kept quoted halted
  obtain rfl : e = e₀.orWithin .expireQuote (.single "quoteHash" given.quoteHash) := Halt.failed.inj wrapped
  intro node
  rcases why with ⟨m, rfl⟩ | ⟨m, rfl, other⟩
  · rcases Error.node_inUseCase_iff.mp node with h | h <;> cases h
  · rcases Error.node_inUseCase_iff.mp node with h | h
    · cases h
    · cases h
      exact other rfl

end

/-- Every store that a provider comes to is coherent. So, as long as the store does not fail, a status is told of each
settlement, and no expiry of one that is stored misses its quote. -/
theorem reached_store_is_coherent (accounts : List (Signed TrustedAccount)) (past : List Store) (s : Store)
    (reached : Reached accounts past s) : s.Coherent ∧
      ∀ σ : Surroundings, (∀ calls a, (σ.peers calls).outage a = none) →
        (∀ (h : String) (t : Settlement), s.settlements[h]? = some t → ∃ q p, s.quotes[h]? = some q ∧
          s.pricing[h]? = some p ∧ ((quoteStatus h).exec σ s).result = .ok ⟨q, t, p⟩) ∧
        ∀ (given : Settlement) (e : Error), given.quoteHash ∈ s.settlements →
          ((expireQuote given).exec σ s).result = .error (.failed e) → ¬ Error.Node Expiry.unquoted e := by
  have coherent : s.Coherent := by
    refine reached.invariant (Store.coherent_trusting accounts) (fun d s coherent copies => ?_) s List.mem_cons_self
    refine coherent.after d fun given hg => ?_
    obtain ⟨earlier, coherent, copied⟩ := copies given hg
    exact coherent.settlements _ given copied
  refine ⟨coherent, fun σ kept => ⟨fun h t ht => ?_, fun given e stored failed => ?_⟩⟩
  · obtain ⟨q, hq⟩ := coherent.quoted.quote h t ht
    obtain ⟨p, hp⟩ := Option.isSome_iff_exists.mp (Std.ExtTreeMap.mem_iff_isSome_getElem?.mp (coherent.priced h q hq))
    exact ⟨q, p, hq, hp, result_quoteStatus kept hq ht hp⟩
  · obtain ⟨t, ht⟩ := Option.isSome_iff_exists.mp (Std.ExtTreeMap.mem_iff_isSome_getElem?.mp stored)
    obtain ⟨q, hq⟩ := coherent.quoted.quote _ t ht
    exact Expiry.not_node_unquoted kept hq failed

open Sample in
theorem lateExpiry_keeps_coherence : ∃ past, Reached [] past (play .empty (seenDeposit ++ [lateExpiry])) ∧
    (play .empty (seenDeposit ++ [lateExpiry])).Coherent ∧
    ((play .empty (seenDeposit ++ [lateExpiry])).settlements[hash]?).map (fun t => (t.state, t.deposit)) =
      some (.timeForDepositElapsed, none) ∧
    ∃ t q p, ((quoteStatus hash).exec lateExpiry.surroundings (play .empty (seenDeposit ++ [lateExpiry]))).result =
      .ok ⟨q, t, p⟩ := by
  obtain ⟨past, reached, -⟩ := reached_of_givenCopies givenCopies_lateExpiry
  obtain ⟨coherent, told⟩ := reached_store_is_coherent [] past _ reached
  have late : ((play .empty (seenDeposit ++ [lateExpiry])).settlements[hash]?).map (fun t => (t.state, t.deposit)) =
      some (.timeForDepositElapsed, none) := by
    decide +kernel
  obtain ⟨t, stored, -⟩ := Option.map_eq_some_iff.mp late
  obtain ⟨q, p, -, -, status⟩ := (told lateExpiry.surroundings fun _ _ => rfl).1 hash t stored
  exact ⟨past, reached, coherent, late, t, q, p, status⟩

end Flyover
