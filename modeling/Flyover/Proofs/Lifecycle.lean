import Flyover.Proofs.History.Turn

/-! The life of a settlement: the moves that deeds make, and the copies that undo them. -/

namespace Flyover

namespace Settlement

lemma State.eq_of_canMove {a b c : State} (ha : a.canMove c) (hb : b.canMove c) : a = b := by
  cases a <;> cases c <;> first
    | exact absurd ha (by decide)
    | (cases b <;> first | rfl | exact absurd hb (by decide))

inductive Advance (t : Settlement) : Settlement → Prop
  | observed (txid : Txid) (state : t.state = .waitingForDeposit) : Advance t (t.observed txid)
  | lapsed (state : t.state = .waitingForDeposit) : Advance t (Expiry.lapsed t)
  | refused (state : t.state = .waitingForDepositConfirmations) : Advance t { t with state := .callForUserFailed }
  | paid (answer : Except Error Receipt) (state : t.state = .waitingForDepositConfirmations) :
      Advance t (Payout.settled t answer)
  | registered (answer : Except Error Receipt) (state : t.state = .callForUserSucceeded) :
      Advance t (Registration.settled t answer)

lemma Advance.canMove {t t' : Settlement} (h : t.Advance t') : t.state.canMove t'.state := by
  cases h with
  | observed txid state => rw [state]; rfl
  | lapsed state => rw [state]; rfl
  | refused state => rw [state]; rfl
  | paid answer state => cases answer <;> rw [state] <;> rfl
  | registered answer state => cases answer <;> rw [state] <;> rfl

end Settlement

def Moves (s s' : Store) : Prop :=
  ∀ (h : String) (t : Settlement), s.settlements[h]? = some t → ∃ t' : Settlement,
    s'.settlements[h]? = some t' ∧ (t'.state = t.state ∨ t.state.canMove t'.state)

def Advances (s s' : Store) : Prop :=
  ∀ (h : String) (t : Settlement), s.settlements[h]? = some t → ∃ t' : Settlement,
    s'.settlements[h]? = some t' ∧ (t' = t ∨ t.Advance t')

namespace Deed

/-- A copy that is closed without a look at the stored settlement has the state of that one, unless that one is in the
closing state already. -/
def ClosesCurrent (d : Deed) (s : Store) : Prop :=
  ∀ given state, d.step.closing? = some (given, state) → d.WritesUnread s given.quoteHash →
    ∀ t : Settlement, s.settlements[given.quoteHash]? = some t → t.state = given.state ∨ t.state = state

def ClosesStored (d : Deed) (s : Store) : Prop :=
  ∀ given state, d.step.closing? = some (given, state) → d.WritesUnread s given.quoteHash →
    ∀ t : Settlement, s.settlements[given.quoteHash]? = some t → t = given

variable {d : Deed} {s : Store}

def Closes (d : Deed) (s : Store) (h : String) (t' : Settlement) : Prop :=
  ∃ given state, d.step.closing? = some (given, state) ∧ d.WritesUnread s h ∧ given.quoteHash = h ∧
    given.state.canMove state ∧ t' = { given with state }

lemma stored_after (keyed : s.Keyed) {h : String} {t : Settlement} (ht : s.settlements[h]? = some t) :
    ∃ t', (d.after s).settlements[h]? = some t' ∧ (t' = t ∨ t.Advance t' ∨ d.Closes s h t') := by
  have kept (after : (d.after s).settlements[h]? = s.settlements[h]?) :
      ∃ t', (d.after s).settlements[h]? = some t' ∧ (t' = t ∨ t.Advance t' ∨ d.Closes s h t') :=
    ⟨t, after.trans ht, .inl rfl⟩
  have left {t' : Settlement} (leaves : d.Leaves s t') (key : t'.quoteHash = h) (ho : t.Advance t' ∨ d.Closes s h t') :
      ∃ t', (d.after s).settlements[h]? = some t' ∧ (t' = t ∨ t.Advance t' ∨ d.Closes s h t') := by
    rcases leaves.lookup key with after | after
    · exact ⟨t', after, .inr ho⟩
    · exact kept after
  have key : t.quoteHash = h := keyed h t ht
  cases turn d keyed h with
  | idle after => exact kept after
  | accepted signature quote u step commits => exact absurd (commits.fresh.symm.trans ht) nofun
  | observed txid u step found state quiet leaves =>
    cases found.symm.trans ht
    exact left leaves key (.inl (.observed txid state))
  | lapsed u step found state after =>
    cases found.symm.trans ht
    exact ⟨_, after, .inr (.inl (.lapsed state))⟩
  | closed given state step hash unread move stored quiet leaves =>
    exact left leaves hash (.inr ⟨given, state, step, unread, hash, move, rfl⟩)
  | paid given u value gasLimit quote answer step hash found state looked orders leaves =>
    cases found.symm.trans ht
    exact left leaves ((Payout.quoteHash_settled t answer).trans key) (.inl (.paid answer state))
  | lagged given u proof quote answer step hash found state orders lagging after => exact kept after
  | registered given u proof quote answer step hash found state orders decided leaves =>
    cases found.symm.trans ht
    exact left leaves ((Registration.quoteHash_settled t answer).trans key) (.inl (.registered answer state))

lemma stored_after_of_writesUnread (keyed : s.Keyed) (kept : d.KeepsUpdates) {given : Settlement}
    {state : Settlement.State} (step : d.step.closing? = some (given, state))
    (unread : d.WritesUnread s given.quoteHash) (stored : given.quoteHash ∈ s.settlements) :
    given.state.canMove state ∧ (d.after s).settlements[given.quoteHash]? = some { given with state } := by
  cases turn d keyed given.quoteHash with
  | idle after quiet unwritten =>
    exact absurd stored (unwritten (Step.hash?_of_closing? step) (by rw [step]; rfl) unread)
  | closed given' state' step' hash unread' move stored' quiet leaves =>
    cases step.symm.trans step'
    exact ⟨move, leaves.lookup_of_kept kept rfl⟩
  | paid given' u value gasLimit quote answer step' hash found state' looked orders leaves =>
    exact absurd looked unread.2
  | accepted signature quote u step' commits => rw [step'] at step; cases step
  | observed txid u step' found state' quiet leaves => rw [step'] at step; cases step
  | lapsed u step' found state' after => rw [step'] at step; cases step
  | lagged given' u proof quote answer step' hash found state' orders lagging after => rw [step'] at step; cases step
  | registered given' u proof quote answer step' hash found state' orders decided leaves =>
    rw [step'] at step
    cases step

lemma moves_of_closesCurrent (keyed : s.Keyed) (current : d.ClosesCurrent s) : Moves s (d.after s) := by
  intro h t ht
  obtain ⟨t', after, rfl | advance | ⟨given, state, step, unread, rfl, move, rfl⟩⟩ := stored_after keyed ht
  · exact ⟨t', after, .inl rfl⟩
  · exact ⟨t', after, .inr advance.canMove⟩
  · rcases current given state step unread t ht with he | he
    · exact ⟨_, after, .inr (he ▸ move)⟩
    · exact ⟨_, after, .inl he.symm⟩

lemma closesCurrent_of_moves (keyed : s.Keyed) (kept : d.KeepsUpdates) (moves : Moves s (d.after s)) :
    d.ClosesCurrent s := by
  intro given state step unread t ht
  have stored := Store.mem_settlements_of_lookup ht
  obtain ⟨move, after⟩ := stored_after_of_writesUnread keyed kept step unread stored
  obtain ⟨t', after', he | hm⟩ := moves _ t ht
  · cases after.symm.trans after'
    exact .inr he.symm
  · -- a state is moved to from one state only
    cases after.symm.trans after'
    exact .inl (Settlement.State.eq_of_canMove hm move)

lemma advance_of_closing {given : Settlement} {state : Settlement.State}
    (step : d.step.closing? = some (given, state)) (move : given.state.canMove state) :
    given.Advance { given with state } := by
  cases hs : d.step <;> rw [hs] at step <;> cases step
  · exact .refused (Settlement.State.eq_of_canMove move rfl)
  · exact .lapsed (Settlement.State.eq_of_canMove move rfl)

lemma advances_of_closesStored (keyed : s.Keyed) (current : d.ClosesStored s) : Advances s (d.after s) := by
  intro h t ht
  obtain ⟨t', after, rfl | advance | ⟨given, state, step, unread, rfl, move, rfl⟩⟩ := stored_after keyed ht
  · exact ⟨t', after, .inl rfl⟩
  · exact ⟨t', after, .inr advance⟩
  · refine ⟨_, after, .inr ?_⟩
    rw [current given state step unread t ht]
    exact advance_of_closing step move

end Deed

def GivenCopies : List Deed → Prop :=
  EachAfter fun before d => ∀ given, d.step.given? = some given → ∃ earlier later, before = earlier ++ later ∧
    (play .empty earlier).settlements[given.quoteHash]? = some given

lemma GivenCopies.concat_of_none {ds : List Deed} {d : Deed} (h : GivenCopies ds) (hd : d.step.given? = none) :
    GivenCopies (ds ++ [d]) :=
  EachAfter.concat h fun _ hg => absurd (hd.symm.trans hg) nofun

/-- A deed makes no move that is not allowed exactly if it closes no copy of a state that has passed; if it closes none
but the stored settlement itself, what it stores is computed from what is stored. -/
theorem moves_iff_closesCurrent (ds : List Deed) (kept : ∀ d ∈ ds, d.KeepsUpdates) :
    ∀ e ∈ entries .empty ds, (Moves e.before e.after ↔ e.deed.ClosesCurrent e.before) ∧
      (e.deed.ClosesStored e.before → Advances e.before e.after) := by
  intro e he
  obtain ⟨before, after, rfl, hb⟩ := exists_of_mem_entries _ _ he
  have keyed : e.before.Keyed := hb ▸ keyed_play keyed_empty before
  have kept : e.deed.KeepsUpdates := kept e.deed (by simp)
  exact ⟨⟨Deed.closesCurrent_of_moves keyed kept, Deed.moves_of_closesCurrent keyed⟩,
    Deed.advances_of_closesStored keyed⟩

namespace Sample

def earlyCopy : Settlement := ((play .empty acceptedQuote).settlements[hash]?).get (by decide +kernel)

def lateExpiry : Deed := deed 10000 (.expireQuote earlyCopy)

lemma earlyCopy_stored : (play .empty acceptedQuote).settlements[hash]? = some earlyCopy :=
  (Option.some_get _).symm

lemma quoteHash_earlyCopy : earlyCopy.quoteHash = hash := keyed_play keyed_empty acceptedQuote _ _ earlyCopy_stored

lemma state_before_lateExpiry :
    ((play .empty seenDeposit).settlements[hash]?).map (fun s => s.state) = some .waitingForDepositConfirmations := by
  decide +kernel

lemma state_after_lateExpiry :
    ((lateExpiry.after (play .empty seenDeposit)).settlements[hash]?).map (fun s => s.state) =
      some .timeForDepositElapsed := by
  decide +kernel

lemma not_moves_lateExpiry : ¬ Moves (play .empty seenDeposit) (lateExpiry.after (play .empty seenDeposit)) := by
  intro moves
  obtain ⟨t, ht, hs⟩ := Option.map_eq_some_iff.mp state_before_lateExpiry
  obtain ⟨t', ht', hm⟩ := moves hash t ht
  have hs' := state_after_lateExpiry
  rw [ht', Option.map_some, Option.some.injEq] at hs'
  rw [hs, hs'] at hm
  revert hm
  decide

lemma givenCopies_lateExpiry : GivenCopies (seenDeposit ++ [lateExpiry]) := by
  have accepted : GivenCopies acceptedQuote := GivenCopies.concat_of_none (.concat_of_none EachAfter.nil rfl) rfl
  have seen : GivenCopies seenDeposit := accepted.concat_of_none rfl
  apply EachAfter.concat seen
  intro given hg
  have he : lateExpiry.step.given? = some earlyCopy := rfl
  rw [he, Option.some.injEq] at hg
  subst hg
  exact ⟨acceptedQuote, _, rfl, quoteHash_earlyCopy ▸ earlyCopy_stored⟩

lemma closesStored_lateExpiry : lateExpiry.ClosesStored (play .empty acceptedQuote) := by
  intro given state step _ t ht
  have hg : given = earlyCopy := (Prod.mk.inj (Option.some.inj step)).1.symm
  rw [hg, quoteHash_earlyCopy, earlyCopy_stored] at ht
  rw [hg, Option.some.inj ht]

lemma keepsUpdates_seenDeposit : ∀ d ∈ seenDeposit ++ [lateExpiry], d.KeepsUpdates := by
  simp [seenDeposit, acceptedQuote, lateExpiry, keepsUpdates_deed]

end Sample

theorem lateExpiry_closes_no_current : ¬ Sample.lateExpiry.ClosesCurrent (play .empty Sample.seenDeposit) ∧
    Advances (play .empty Sample.acceptedQuote) (Sample.lateExpiry.after (play .empty Sample.acceptedQuote)) := by
  constructor
  · intro current
    have h := moves_iff_closesCurrent _ Sample.keepsUpdates_seenDeposit _ (mem_entries_concat _ _ _)
    dsimp only [Entry.after] at h
    exact Sample.not_moves_lateExpiry (h.1.mpr current)
  · have kept : ∀ d ∈ Sample.acceptedQuote ++ [Sample.lateExpiry], d.KeepsUpdates := by
      simp [Sample.acceptedQuote, Sample.lateExpiry, Sample.keepsUpdates_deed]
    have h := moves_iff_closesCurrent _ kept _ (mem_entries_concat _ _ _)
    dsimp only [Entry.after] at h
    exact h.2 Sample.closesStored_lateExpiry

theorem early_copy_undoes_deposit : ¬ ∀ ds : List Deed, GivenCopies ds → (∀ d ∈ ds, d.KeepsUpdates) →
    ∀ e ∈ entries .empty ds, Moves e.before e.after := by
  intro h
  have moves := h _ Sample.givenCopies_lateExpiry Sample.keepsUpdates_seenDeposit _ (mem_entries_concat _ _ _)
  dsimp only [Entry.after] at moves
  exact Sample.not_moves_lateExpiry moves

end Flyover
