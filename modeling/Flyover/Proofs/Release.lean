import Flyover.Proofs.History.Quotes
import Flyover.Proofs.Lifecycle

/-! Whether the liquidity that a settlement locks can be released by tending to it. -/

namespace Flyover

open Run Trace

def Store.Seen (s : Store) : Prop :=
  ∀ (h : String) (t : Settlement), s.settlements[h]? = some t → t.state = .waitingForDepositConfirmations →
    ∃ txid, t.deposit = some txid

lemma seen_after (d : Deed) {s : Store} (keyed : s.Keyed) (seen : s.Seen) : (d.after s).Seen := by
  intro h t ht waiting
  cases effect d keyed h with
  | kept after => exact seen h t (after ▸ ht) waiting
  | accepted signature quote u step commits =>
    cases commits.lookup.symm.trans ht
    rw [commits.prepared.state] at waiting
    cases waiting
  | observed txid u found state after =>
    cases after.symm.trans ht
    exact ⟨txid, rfl⟩
  | released u stored key state after =>
    cases after.symm.trans ht
    rw [waiting] at state
    exact absurd (by decide) state

lemma seen_play {s : Store} (keyed : s.Keyed) (seen : s.Seen) (ds : List Deed) : (play s ds).Seen :=
  invariant_play seen_after keyed seen ds

lemma seen_empty : Store.empty.Seen := by
  intro h t ht
  simp [Store.empty] at ht

def Step.Tends (s : Store) : Step → Prop
  | observeDeposit _ _ | sweepExpired => True
  | callForUser given | expireQuote given => s.settlements[given.quoteHash]? = some given
  | getQuote _ | acceptQuote _ _ | registerPegin _ => False

/-- Deeds that tend to settlements, from a point in time on and one after the other, under settings that stay the same. -/
inductive Tended (settings : Settings) : Int → Store → List Deed → Prop
  | nil (now : Int) (s : Store) : Tended settings now s []
  | cons {now : Int} {s : Store} {d : Deed} {ds : List Deed} (forward : now ≤ d.surroundings.now)
      (same : d.surroundings.settings = settings) (tends : d.step.Tends s)
      (rest : Tended settings d.surroundings.now (d.after s) ds) : Tended settings now s (d :: ds)

/-- Some deeds, with some answers of the peers, leave the settlement in a state that locks nothing. -/
def Releasable (settings : Settings) (now : Int) (s : Store) (h : String) : Prop :=
  ∃ ds, Tended settings now s ds ∧ ∃ t : Settlement,
    (play s ds).settlements[h]? = some t ∧ t.state ∉ Settlement.State.locking

lemma Quote.isExpiredAt_of_le {q : Quote} {now later : Int} (h : q.isExpiredAt now) (hle : now ≤ later) :
    q.isExpiredAt later := by
  rw [isExpiredAt, decide_eq_true_eq] at h ⊢
  omega

section

variable {d : Deed} {s : Store} {h : String} {t : Settlement} {quote : Quote}

lemma kept_of_expired (keyed : s.Keyed) (tends : d.step.Tends s) (stored : s.settlements[h]? = some t)
    (waiting : t.state = .waitingForDepositConfirmations) (quoted : s.quotes[h]? = some quote)
    (expired : quote.isExpiredAt d.surroundings.now) : (d.after s).settlements[h]? = some t := by
  by_cases paying : ∃ given, d.step = .callForUser given ∧ given.quoteHash = h
  · obtain ⟨given, step, rfl⟩ := paying
    have inquired := Payout.pay_inquires_of_expired (t := .start s) quoted expired
    rw [Deed.after, Deed.trace_of_callForUser step, inquired.store_eq]
    exact stored
  cases turn d keyed h with
  | idle after => exact after.trans stored
  | accepted signature quote u step commits => cases commits.fresh.symm.trans stored
  | observed txid u step found state quiet leaves =>
    cases found.symm.trans stored
    cases state.symm.trans waiting
  | lapsed u step found state after =>
    cases found.symm.trans stored
    cases state.symm.trans waiting
  | closed given state step hash unread move mem quiet leaves =>
    cases hs : d.step with
    | callForUser given' =>
      rw [hs] at step
      cases step
      exact absurd ⟨given, hs, hash⟩ paying
    | expireQuote given' =>
      rw [hs] at step tends
      cases step
      rw [Step.Tends, hash, stored, Option.some.injEq] at tends
      rw [← tends, waiting] at move
      cases move
    | _ => rw [hs] at step; cases step
  | paid given u value gasLimit quote answer step hash found state looked orders leaves =>
    exact absurd ⟨given, step, hash⟩ paying
  | lagged given u proof quote answer step hash found state orders lagging after => exact after.trans stored
  | registered given u proof quote answer step hash found state orders decided leaves =>
    cases found.symm.trans stored
    cases state.symm.trans waiting

lemma kept_of_tended {settings : Settings} {now : Int} {ds : List Deed} (tended : Tended settings now s ds)
    (keyed : s.Keyed) (stored : s.settlements[h]? = some t) (waiting : t.state = .waitingForDepositConfirmations)
    (quoted : s.quotes[h]? = some quote) (expired : quote.isExpiredAt now) : (play s ds).settlements[h]? = some t := by
  induction tended with
  | nil now s => exact stored
  | @cons now s d ds forward same tends rest ih =>
    have expired := Quote.isExpiredAt_of_le expired forward
    have other : ∀ request, d.step ≠ .getQuote request := by
      intro request step
      rw [step] at tends
      exact tends
    have quoted' : (d.after s).quotes[h]? = some quote := by rw [(Deed.alike_after keyed other).quotes, quoted]
    exact ih (keyed_after d keyed) (kept_of_expired keyed tends stored waiting quoted expired) quoted' expired

lemma not_releasable_of_expired {settings : Settings} {now : Int} (keyed : s.Keyed) (stored : s.settlements[h]? = some t)
    (waiting : t.state = .waitingForDepositConfirmations) (quoted : s.quotes[h]? = some quote)
    (expired : quote.isExpiredAt now) : ¬ Releasable settings now s h := by
  rintro ⟨ds, tended, t', stored', state⟩
  cases (kept_of_tended tended keyed stored waiting quoted expired).symm.trans stored'
  rw [waiting] at state
  exact absurd (by decide) state

def obliging (t : Settlement) (quote : Quote) (paid : Wei) : Peers where
  contractAddress := Recommendation.zeroAddress
  outage _ := none
  answer
    | .deposit _ =>
      .ok ⟨quote.confirmations.toUInt64, (∅ : Std.ExtTreeMap String (List Wei)).insert t.depositAddress [paid]⟩
    | .contractBalance _ => .ok quote.value
    | .callForUser .. => .ok ⟨"", 0, 0⟩
    | _ => .error .quoteNotFound

def obligingDeed (settings : Settings) (now : Int) (t : Settlement) (quote : Quote) (paid : Wei) (step : Step) : Deed :=
  ⟨step, ⟨fun _ => obliging t quote paid, now, 1⟩, settings, fun _ => false⟩

lemma releasable_of_deed (d : Deed) {now : Int} {u : Settlement} (forward : now ≤ d.surroundings.now)
    (tends : d.step.Tends s) (after : (d.after s).settlements[h]? = some u) (state : u.state ∉ Settlement.State.locking) :
    Releasable d.surroundings.settings now s h :=
  ⟨[d], .cons forward rfl tends (.nil _ _), u, after, state⟩

lemma releasable_of_waitingForDeposit (settings : Settings) (now : Int) (keyed : s.Keyed)
    (stored : s.settlements[h]? = some t) (waiting : t.state = .waitingForDeposit) (quoted : s.quotes[h]? = some quote) :
    Releasable settings now s h := by
  have key : t.quoteHash = h := keyed h t stored
  subst key
  let later := max now (quote.expireTime + 1)
  have expired : quote.isExpiredAt later := by
    rw [Quote.isExpiredAt, decide_eq_true_eq]
    omega
  let d := obligingDeed settings later t quote 0 (.expireQuote t)
  have closed : (Expiry.close t).resume d.surroundings (.start s) = _ :=
    Expiry.resume_close_of_kept waiting quoted expired (Store.mem_settlements_of_lookup stored) fun _ _ => rfl
  have after : (d.after s).settlements[t.quoteHash]? = some (Expiry.lapsed t) := by
    rw [Deed.after, Deed.trace_of_expireQuote rfl, closed]
    exact Store.lookup_setSettlement_self s (Expiry.lapsed t)
  exact releasable_of_deed d (le_max_left ..) stored after Expiry.state_lapsed_notMem_locking

lemma releasable_of_unexpired (settings : Settings) {now : Int} (keyed : s.Keyed) (stored : s.settlements[h]? = some t)
    (waiting : t.state = .waitingForDepositConfirmations) {txid : Txid} (seen : t.deposit = some txid)
    (quoted : s.quotes[h]? = some quote) {total : Wei} (demanded : quote.total = .ok total)
    (unexpired : quote.isExpiredAt now = false) : Releasable settings now s h := by
  have key : t.quoteHash = h := keyed h t stored
  subst key
  let d := obligingDeed settings now t quote total (.callForUser t)
  let deposit : Deposit :=
    ⟨quote.confirmations.toUInt64, (∅ : Std.ExtTreeMap String (List Wei)).insert t.depositAddress [total]⟩
  have sent : deposit.amountTo t.depositAddress = .ok total := by
    rw [Deposit.amountTo_eq_ok_iff]
    simp [deposit]
  have weighs : Payout.Weighs t d.surroundings (.start s) txid deposit ⟨quote, total, total⟩ :=
    ⟨⟨waiting, seen, rfl, quoted, unexpired, rfl, UInt64.le_refl _⟩, demanded, sent⟩
  obtain ⟨t', allotted⟩ : ∃ t', (Payout.allot t.quoteHash quote).resume d.surroundings
      (Payout.examined t txid (.start s)) = ⟨.ok (t, 0), t'⟩ :=
    Payout.resume_allot_of_covered rfl stored waiting (fun _ _ => rfl) fun _ => rfl
  have paid := Payout.resume_pay_of_weighs weighs (Nat.lt_irrefl _) allotted
  have inquired := (Payout.allot_inquires t.quoteHash quote).of_resume allotted
  have writes := Run.record_writes d.surroundings (Payout.settled t (.ok ⟨"", 0, 0⟩))
    (t'.noting (.question (.callForUser 0 (Payout.gasLimit quote) quote)))
    (.calledForUser quote (Payout.settled t (.ok ⟨"", 0, 0⟩)) none) none
  have after : (d.after s).settlements[t.quoteHash]? = some (Payout.settled t (.ok ⟨"", 0, 0⟩)) := by
    rw [Deed.after, Deed.trace_of_callForUser rfl]
    show ((Payout.pay t).resume d.surroundings (.start s)).trace.store.settlements[t.quoteHash]? = _
    rw [paid, Payout.resume_order 0 d.surroundings t' waiting]
    apply writes.lookup_of_kept rfl
    rw [store_noting, inquired.store_eq]
    exact Store.mem_settlements_of_lookup stored
  exact releasable_of_deed d (le_refl now) stored after (Payout.state_settled_notMem_locking t _)

end

/-- The liquidity of a settlement can be released as long as it waits for its deposit or its quote is not expired. -/
theorem releasable_iff (ds : List Deed) (h : String) (t : Settlement)
    (stored : (play .empty ds).settlements[h]? = some t) (locking : t.state ∈ Settlement.State.locking) :
    ∃ quote, (play .empty ds).quotes[h]? = some quote ∧ ∀ settings now,
      Releasable settings now (play .empty ds) h ↔ t.state = .waitingForDeposit ∨ quote.isExpiredAt now = false := by
  have keyed := keyed_play keyed_empty ds
  have invariant := quoted_play keyed_empty Store.quoted_empty ds
  obtain ⟨quote, quoted⟩ := invariant.quote h t stored
  obtain ⟨total, demanded⟩ := invariant.total h quote quoted
  refine ⟨quote, quoted, fun settings now => ?_⟩
  have states : t.state = .waitingForDeposit ∨ t.state = .waitingForDepositConfirmations := by
    simpa [Settlement.State.locking] using locking
  rcases states with waiting | waiting
  · exact iff_of_true (releasable_of_waitingForDeposit settings now keyed stored waiting quoted) (.inl waiting)
  obtain ⟨txid, seen⟩ := seen_play keyed_empty seen_empty ds h t stored waiting
  cases expired : quote.isExpiredAt now with
  | false => exact iff_of_true (releasable_of_unexpired settings keyed stored waiting seen quoted demanded expired) (.inr rfl)
  | true =>
    refine iff_of_false (not_releasable_of_expired keyed stored waiting quoted expired) ?_
    rw [waiting]
    simp

namespace Sample

lemma seenDeposit_stored : ∃ t : Settlement, (play .empty seenDeposit).settlements[hash]? = some t ∧
    t.state = .waitingForDepositConfirmations := by
  obtain ⟨t, stored, state⟩ := Option.map_eq_some_iff.mp state_before_lateExpiry
  exact ⟨t, stored, state⟩

lemma expireTime_of_seenDeposit :
    ((play .empty seenDeposit).quotes[hash]?).map (fun q => q.expireTime) = some 3600 := by
  decide +kernel

end Sample

theorem seenDeposit_releasable_until_expired :
    Releasable Sample.settings 3600 (play .empty Sample.seenDeposit) Sample.hash ∧
      ¬ Releasable Sample.settings 3601 (play .empty Sample.seenDeposit) Sample.hash := by
  obtain ⟨t, stored, waiting⟩ := Sample.seenDeposit_stored
  obtain ⟨quote, quoted, releasable⟩ := releasable_iff Sample.seenDeposit Sample.hash t stored (by rw [waiting]; decide)
  have expires := Sample.expireTime_of_seenDeposit
  rw [quoted, Option.map_some, Option.some.injEq] at expires
  rw [releasable, releasable, waiting, Quote.isExpiredAt, Quote.isExpiredAt, expires]
  decide

theorem expired_deposit_locks_for_good : ¬ ∀ (ds : List Deed) (h : String) (t : Settlement) (settings : Settings) (now : Int),
    (play .empty ds).settlements[h]? = some t → t.state ∈ Settlement.State.locking →
      Releasable settings now (play .empty ds) h := by
  intro always
  obtain ⟨t, stored, waiting⟩ := Sample.seenDeposit_stored
  obtain ⟨quote, quoted, expires⟩ := Option.map_eq_some_iff.mp Sample.expireTime_of_seenDeposit
  have expired : quote.isExpiredAt 10000 := by
    rw [Quote.isExpiredAt, expires]
    decide
  refine not_releasable_of_expired (keyed_play keyed_empty _) stored waiting quoted expired
    (always Sample.seenDeposit Sample.hash t Sample.settings 10000 stored ?_)
  rw [waiting]
  decide

end Flyover
