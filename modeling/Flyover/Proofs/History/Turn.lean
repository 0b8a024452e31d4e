import Flyover.Proofs.History.Deed

/-! What a deed does to the settlement of a quote. -/

namespace Flyover

open Run Trace

inductive Turn (h : String) (d : Deed) (s : Store) : Prop
  | idle (kept : (d.after s).settlements[h]? = s.settlements[h]?) (quiet : d.step.hash? = some h → d.Quiet s)
      (unwritten : d.step.hash? = some h → d.step.closing?.isSome → d.WritesUnread s h → h ∉ s.settlements)
  | accepted (signature : Option String) (quote : Quote) (t : Settlement) (step : d.step = .acceptQuote h signature)
      (commits : Acceptance.Commits h d.surroundings (.start s) (d.trace s) quote t)
  | observed (txid : Txid) (t : Settlement) (step : d.step = .observeDeposit h txid)
      (found : s.settlements[h]? = some t) (state : t.state = .waitingForDeposit) (quiet : d.Quiet s)
      (leaves : d.Leaves s (t.observed txid))
  | lapsed (t : Settlement) (step : d.step = .sweepExpired) (found : s.settlements[h]? = some t)
      (state : t.state = .waitingForDeposit) (after : (d.after s).settlements[h]? = some (Expiry.lapsed t))
  | closed (given : Settlement) (state : Settlement.State) (step : d.step.closing? = some (given, state))
      (hash : given.quoteHash = h) (unread : d.WritesUnread s h) (move : given.state.canMove state)
      (stored : h ∈ s.settlements) (quiet : d.Quiet s) (leaves : d.Leaves s { given with state })
  | paid (given t : Settlement) (value : Wei) (gasLimit : UInt64) (quote : Quote) (answer : Except Error Receipt)
      (step : d.step = .callForUser given) (hash : given.quoteHash = h) (found : s.settlements[h]? = some t)
      (state : t.state = .waitingForDepositConfirmations) (looked : .access (.settlement h) ∈ (d.trace s).calls)
      (orders : d.Orders s (.callForUser value gasLimit quote) answer) (leaves : d.Leaves s (Payout.settled t answer))
  | lagged (given t : Settlement) (proof : DepositProof) (quote : Quote) (answer : Except Error Receipt)
      (step : d.step = .registerPegin given) (hash : given.quoteHash = h) (found : s.settlements[h]? = some t)
      (state : t.state = .callForUserSucceeded) (orders : d.Orders s (.registerPegin proof quote) answer)
      (lagging : Registration.isLagging answer) (kept : (d.after s).settlements[h]? = s.settlements[h]?)
  | registered (given t : Settlement) (proof : DepositProof) (quote : Quote) (answer : Except Error Receipt)
      (step : d.step = .registerPegin given) (hash : given.quoteHash = h) (found : s.settlements[h]? = some t)
      (state : t.state = .callForUserSucceeded) (orders : d.Orders s (.registerPegin proof quote) answer)
      (decided : Registration.isLagging answer = false) (leaves : d.Leaves s (Registration.settled t answer))

namespace Deed

variable {d : Deed} {s : Store} {h : String} {t : Settlement} {τ : Trace}

lemma quiet_of_calls (hc : (Trace.start s).Calls (fun c => c.isPassive) (d.trace s)) : d.Quiet s :=
  fun _ hr => hc.isPassive_of_mem_replies hr

lemma leaves_of_writes (hw : Writes d.surroundings t τ (d.trace s)) (hs : τ.store = s)
    (stored : t.quoteHash ∈ s.settlements) : d.Leaves s t := by
  subst hs
  cases ho : (d.surroundings.peers τ.calls).outage (.updateSettlement t.quoteHash) with
  | none => exact .inl (hw.lookup_of_kept ho stored)
  | some e =>
    rcases hw.lookup_self with h | h
    · exact .inl h
    · exact .inr ⟨fun kept => Option.some_ne_none e (ho.symm.trans (kept _ _)), h⟩

lemma trace_of_callForUser {given : Settlement} (step : d.step = .callForUser given) :
    d.trace s = ((Payout.pay given).resume d.surroundings (.start s)).trace := by
  rw [trace, step, Step.run, exec, trace_discard, Flyover.callForUser, trace_mapError]

lemma trace_of_registerPegin {given : Settlement} (step : d.step = .registerPegin given) :
    d.trace s = ((Registration.register given).resume d.surroundings (.start s)).trace := by
  rw [trace, step, Step.run, exec, trace_discard, Flyover.registerPegin, trace_mapError]

lemma trace_of_expireQuote {given : Settlement} (step : d.step = .expireQuote given) :
    d.trace s = ((Expiry.close given).resume d.surroundings (.start s)).trace := by
  rw [trace, step, Step.run, exec, trace_discard, Flyover.expireQuote, trace_mapError]

lemma trace_of_acceptQuote {hash : String} {signature : Option String} (step : d.step = .acceptQuote hash signature) :
    d.trace s = ((Acceptance.accept hash signature).resume d.surroundings (.start s)).trace := by
  rw [trace, step, Step.run, exec, trace_discard, Flyover.acceptQuote, trace_mapError]

lemma trace_of_getQuote {request : QuoteRequest} (step : d.step = .getQuote request) :
    d.trace s = ((Quoting.price request).resume d.surroundings (.start s)).trace := by
  rw [trace, step, Step.run, exec, trace_discard, Flyover.getQuote, trace_mapError]

lemma trace_of_sweepExpired (step : d.step = .sweepExpired) :
    d.trace s = (sweepExpired.resume d.surroundings (.start s)).trace := by
  rw [trace, step, Step.run, exec, trace_discard]

lemma trace_of_observeDeposit {hash : String} {txid : Txid} (step : d.step = .observeDeposit hash txid) :
    d.trace s = ((observeDeposit hash txid).resume d.surroundings (.start s)).trace := by
  rw [trace, step, Step.run, exec]

lemma turn_of_inquires (inquired : (Trace.start s).Asks (d.trace s)) : Turn h d s := by
  refine .idle ?_ (fun _ => quiet_of_calls inquired.calls) fun _ _ => ?_
  · rw [after, inquired.store_eq]
    rfl
  · rintro ⟨hc, -⟩
    obtain ⟨cs, ht, hp⟩ := inquired
    rw [ht] at hc
    exact absurd (hp _ hc) (by simp [Call.isPassive])

lemma turn_of_other (other : d.step.hash? ≠ some h) (kept : (d.after s).settlements[h]? = s.settlements[h]?) :
    Turn h d s :=
  .idle kept (fun hash => absurd hash other) fun hash => absurd hash other

lemma turn_of_writes_other {k : String} (hash : d.step.hash? = some k) (hk : k ≠ h)
    (hw : Writes d.surroundings t τ (d.trace s)) (hs : τ.store = s) (key : t.quoteHash = k) : Turn h d s := by
  apply turn_of_other (by rw [hash]; exact fun e => hk (Option.some.inj e))
  rw [after, hw.lookup_of_ne (key ▸ hk), hs]

lemma quiet_of_writes (inquired : (Trace.start s).Asks τ)
    (hw : Writes d.surroundings t τ (d.trace s)) : d.Quiet s := by
  obtain ⟨cs, rfl, hp⟩ := inquired
  intro r hr
  rw [replies, hw.replies] at hr
  exact hp _ (question_mem_of_mem_replies _ _ _ hr)

lemma orders_of_asked {q : Question} {answer : Except Error q.Answer}
    (inquired : (Trace.start s).Asks τ)
    (answered : (d.surroundings.peers τ.calls).answer q = answer)
    (hr : d.replies s = (τ.noting (.question q)).replies d.surroundings) : d.Orders s q answer := by
  obtain ⟨cs, rfl, hp⟩ := inquired
  refine ⟨((Trace.start s).notingAll cs).replies d.surroundings, fun r hr => ?_, ?_⟩
  · exact hp _ (question_mem_of_mem_replies _ _ _ hr)
  · rw [hr, replies_noting_question, answered]

lemma turn_of_closing {given : Settlement} {state : Settlement.State} (step : d.step.closing? = some (given, state))
    (hash : d.step.hash? = some given.quoteHash) (move : given.state.canMove state)
    (inquired : (Trace.start s).Inquires (Blind given.quoteHash) τ)
    (hw : Writes d.surroundings { given with state } τ (d.trace s)) : Turn h d s := by
  have passive := inquired.mono fun _ (hc : Blind given.quoteHash _) => hc.1
  by_cases hh : given.quoteHash = h
  · subst hh
    have unread : d.WritesUnread s given.quoteHash := by
      obtain ⟨cs, rfl, hp⟩ := inquired
      refine ⟨by simp [hw.calls], ?_⟩
      rw [hw.calls]
      simp only [List.mem_append, List.mem_singleton, Call.access.injEq, reduceCtorEq, or_false]
      exact fun hc => (hp _ hc).2 rfl
    by_cases stored : given.quoteHash ∈ s.settlements
    · exact .closed given state step rfl unread move stored (quiet_of_writes passive hw)
        (leaves_of_writes hw inquired.store_eq stored)
    · refine .idle ?_ (fun _ => quiet_of_writes passive hw) fun _ _ _ => stored
      have hn : ¬ (Settlement.quoteHash { given with state } ∈ τ.store.settlements) := inquired.store_eq ▸ stored
      rw [after, hw.store, if_neg fun h => hn h.2, inquired.store_eq]
      rfl
  · exact turn_of_writes_other hash hh hw inquired.store_eq rfl

lemma turn_callForUser (keyed : s.Keyed) {given : Settlement} (step : d.step = .callForUser given) : Turn h d s := by
  have hash : d.step.hash? = some given.quoteHash := by rw [step]; rfl
  have ending := Payout.pay_ends given d.surroundings (.start s)
  rw [← trace_of_callForUser step] at ending
  cases ending with
  | idle inquired => exact turn_of_inquires inquired
  | refused state inquired writes =>
    exact turn_of_closing (by rw [step]; rfl) hash (by rw [state]; rfl) inquired writes
  | @paid τ _ stored value gasLimit quote answer inquired looked found state answered writes =>
    have key : (Payout.settled stored answer).quoteHash = given.quoteHash := by
      rw [Payout.quoteHash_settled, keyed _ _ found]
    by_cases hh : given.quoteHash = h
    · subst hh
      have mem : given.quoteHash ∈ s.settlements := Store.mem_settlements_of_lookup found
      refine .paid given stored value gasLimit quote answer step rfl found state ?_
        (orders_of_asked inquired answered writes.replies) (leaves_of_writes writes inquired.store_eq (key ▸ mem))
      rw [writes.calls, calls_noting]
      simp [looked]
    · exact turn_of_writes_other hash hh writes inquired.store_eq key

lemma turn_expireQuote {given : Settlement} (step : d.step = .expireQuote given) : Turn h d s := by
  have ending := Expiry.close_ends given d.surroundings (.start s)
  rw [← trace_of_expireQuote step] at ending
  cases ending with
  | idle inquired => exact turn_of_inquires inquired.asks
  | closed state inquired writes =>
    exact turn_of_closing (by rw [step]; rfl) (by rw [step]; rfl) (by rw [state]; rfl) inquired writes

lemma turn_registerPegin (keyed : s.Keyed) {given : Settlement} (step : d.step = .registerPegin given) :
    Turn h d s := by
  have hash : d.step.hash? = some given.quoteHash := by rw [step]; rfl
  have ending := Registration.register_ends given d.surroundings (.start s)
  rw [← trace_of_registerPegin step] at ending
  generalize ht : d.trace s = τ at ending
  cases ending with
  | idle inquired => exact turn_of_inquires (ht ▸ inquired)
  | @lagged τ stored proof quote answer inquired found state answered lagging =>
    have kept : (d.after s).settlements = s.settlements := by
      rw [after, ht, store_noting, inquired.store_eq]
      rfl
    by_cases hh : given.quoteHash = h
    · subst hh
      exact .lagged given stored proof quote answer step rfl found state
        (orders_of_asked inquired answered (by rw [replies, ht])) lagging (by rw [kept])
    · exact turn_of_other (by rw [hash]; exact fun e => hh (Option.some.inj e)) (by rw [kept])
  | registered stored proof quote answer inquired found state answered decided writes =>
    subst ht
    have key : (Registration.settled stored answer).quoteHash = given.quoteHash := by
      rw [Registration.quoteHash_settled, keyed _ _ found]
    by_cases hh : given.quoteHash = h
    · subst hh
      have mem : given.quoteHash ∈ s.settlements := Store.mem_settlements_of_lookup found
      exact .registered given stored proof quote answer step rfl found state
        (orders_of_asked inquired answered writes.replies) decided
        (leaves_of_writes writes inquired.store_eq (key ▸ mem))
    · exact turn_of_writes_other hash hh writes inquired.store_eq key

lemma turn_acceptQuote {hash : String} {signature : Option String} (step : d.step = .acceptQuote hash signature) :
    Turn h d s := by
  have ending := Acceptance.accept_ends hash signature d.surroundings (.start s)
  rw [← trace_of_acceptQuote step] at ending
  cases ending with
  | idle inquired => exact turn_of_inquires inquired
  | committed quote t commits =>
    by_cases hh : hash = h
    · subst hh
      exact .accepted signature quote t step commits
    · apply turn_of_other (by rw [step]; exact fun e => hh (Option.some.inj e))
      rw [after, commits.stored, Store.lookup_setSettlement, commits.prepared.quoteHash, if_neg hh]
      rfl

lemma turn_getQuote {request : QuoteRequest} (step : d.step = .getQuote request) : Turn h d s := by
  have spares := Quoting.price_spares request d.surroundings (.start s)
  rw [← trace_of_getQuote step] at spares
  apply turn_of_other (by rw [step]; exact nofun)
  rw [after, spares.settlements]
  rfl

lemma turn_sweepExpired (keyed : s.Keyed) (step : d.step = .sweepExpired) : Turn h d s := by
  have swept := Expiry.sweepExpired_sweeps d.surroundings (.start s) keyed
  rw [← trace_of_sweepExpired step] at swept
  rcases swept.settlements h with kept | ⟨t, found, state, after⟩
  · exact turn_of_other (by rw [step]; exact nofun) kept
  · exact .lapsed t step found state after

lemma turn_observeDeposit (keyed : s.Keyed) {hash : String} {txid : Txid} (step : d.step = .observeDeposit hash txid) :
    Turn h d s := by
  have ending := Observation.observeDeposit_ends hash txid d.surroundings (.start s)
  rw [← trace_of_observeDeposit step] at ending
  cases ending with
  | idle inquired => exact turn_of_inquires inquired
  | observed stored inquired found state writes =>
    have key : stored.quoteHash = hash := keyed _ _ found
    by_cases hh : hash = h
    · subst hh
      have mem : hash ∈ s.settlements := Store.mem_settlements_of_lookup found
      exact .observed txid stored step found state (quiet_of_writes inquired writes)
        (leaves_of_writes writes inquired.store_eq (key ▸ mem))
    · exact turn_of_writes_other (by rw [step]; rfl) hh writes inquired.store_eq key

end Deed

lemma turn (d : Deed) {s : Store} (keyed : s.Keyed) (h : String) : Turn h d s := by
  cases step : d.step with
  | getQuote request => exact Deed.turn_getQuote step
  | acceptQuote hash signature => exact Deed.turn_acceptQuote step
  | observeDeposit hash txid => exact Deed.turn_observeDeposit keyed step
  | callForUser given => exact Deed.turn_callForUser keyed step
  | registerPegin given => exact Deed.turn_registerPegin keyed step
  | expireQuote given => exact Deed.turn_expireQuote step
  | sweepExpired => exact Deed.turn_sweepExpired keyed step

lemma Deed.Leaves.lookup {d : Deed} {s : Store} {t : Settlement} {h : String} (leaves : d.Leaves s t)
    (key : t.quoteHash = h) :
    (d.after s).settlements[h]? = some t ∨ (d.after s).settlements[h]? = s.settlements[h]? := by
  subst key
  exact leaves.imp_right And.right

lemma Deed.Leaves.lookup_of_kept {d : Deed} {s : Store} {t : Settlement} {h : String} (leaves : d.Leaves s t)
    (kept : d.KeepsUpdates) (key : t.quoteHash = h) : (d.after s).settlements[h]? = some t := by
  subst key
  exact leaves.resolve_right fun h => h.1 kept

inductive Effect (h : String) (d : Deed) (s : Store) : Prop
  | kept (after : (d.after s).settlements[h]? = s.settlements[h]?)
  | accepted (signature : Option String) (quote : Quote) (t : Settlement) (step : d.step = .acceptQuote h signature)
      (commits : Acceptance.Commits h d.surroundings (.start s) (d.trace s) quote t)
  | observed (txid : Txid) (t : Settlement) (found : s.settlements[h]? = some t)
      (state : t.state = .waitingForDeposit) (after : (d.after s).settlements[h]? = some (t.observed txid))
  | released (t : Settlement) (stored : h ∈ s.settlements) (key : t.quoteHash = h)
      (state : t.state ∉ Settlement.State.locking) (after : (d.after s).settlements[h]? = some t)

lemma effect (d : Deed) {s : Store} (keyed : s.Keyed) (h : String) : Effect h d s := by
  have replaced (t : Settlement) (stored : h ∈ s.settlements) (key : t.quoteHash = h)
      (state : t.state ∉ Settlement.State.locking) (leaves : d.Leaves s t) : Effect h d s := by
    rcases leaves.lookup key with after | after
    · exact .released t stored key state after
    · exact .kept after
  cases turn d keyed h with
  | idle kept => exact .kept kept
  | accepted signature quote t step commits => exact .accepted signature quote t step commits
  | observed txid t step found state quiet leaves =>
    rcases leaves.lookup (keyed h t found) with after | after
    · exact .observed txid t found state after
    · exact .kept after
  | lapsed t step found state after =>
    exact .released (Expiry.lapsed t) (Store.mem_settlements_of_lookup found) (keyed h t found)
      Expiry.state_lapsed_notMem_locking after
  | closed given state step hash unread move stored quiet leaves =>
    exact replaced { given with state } stored hash
      (Settlement.State.notMem_locking_of_isTerminal (Step.isTerminal_of_closing? step)) leaves
  | paid given t value gasLimit quote answer step hash found state looked orders leaves =>
    have key : (Payout.settled t answer).quoteHash = h := by rw [Payout.quoteHash_settled, keyed h t found]
    exact replaced _ (Store.mem_settlements_of_lookup found) key (Payout.state_settled_notMem_locking t answer) leaves
  | lagged given t proof quote answer step hash found state orders lagging kept => exact .kept kept
  | registered given t proof quote answer step hash found state orders decided leaves =>
    have key : (Registration.settled t answer).quoteHash = h := by
      rw [Registration.quoteHash_settled, keyed h t found]
    exact replaced _ (Store.mem_settlements_of_lookup found) key (Registration.state_settled_notMem_locking t answer)
      leaves

lemma keyed_after (d : Deed) {s : Store} (keyed : s.Keyed) : (d.after s).Keyed := by
  intro h t ht
  cases effect d keyed h with
  | kept after => exact keyed h t (after ▸ ht)
  | accepted signature quote u step commits =>
    cases commits.lookup.symm.trans ht
    exact commits.prepared.quoteHash
  | observed txid u found state after =>
    rw [after] at ht
    cases ht
    exact keyed h u found
  | released u stored key state after =>
    rw [after] at ht
    cases ht
    exact key

lemma keyed_play {s : Store} (keyed : s.Keyed) (ds : List Deed) : (play s ds).Keyed := by
  induction ds generalizing s with
  | nil => exact keyed
  | cons d ds ih => exact ih (keyed_after d keyed)

lemma invariant_play {P : Store → Prop} (kept : ∀ (d : Deed) {s : Store}, s.Keyed → P s → P (d.after s)) {s : Store}
    (keyed : s.Keyed) (first : P s) (ds : List Deed) : P (play s ds) := by
  induction ds generalizing s with
  | nil => exact first
  | cons d ds ih => exact ih (keyed_after d keyed) (kept d keyed first)

end Flyover
