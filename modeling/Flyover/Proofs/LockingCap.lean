import Flyover.Proofs.History.Locked
import Flyover.Proofs.History.Quotes

/-! What trusted accounts lock, against their caps. -/

namespace Flyover

open Run Trace

lemma accounts_play {s : Store} (keyed : s.Keyed) (ds : List Deed) : (play s ds).accounts = s.accounts :=
  invariant_play (fun _ _ keyed same => (Deed.accounts_after keyed).trans same) keyed rfl ds

def Store.Addressed (s : Store) : Prop :=
  ∀ (address : Address) (a : Signed TrustedAccount), s.accounts[address]? = some a → a.value.address = address

def trusting (accounts : List (Signed TrustedAccount)) : Store := accounts.foldl Store.putAccount .empty

lemma settlements_trusting (accounts : List (Signed TrustedAccount)) : (trusting accounts).settlements = ∅ := by
  have h (s : Store) : (accounts.foldl Store.putAccount s).settlements = s.settlements := by
    induction accounts generalizing s with
    | nil => rfl
    | cons a accounts ih => exact ih (s.putAccount a)
  exact h .empty

lemma keyed_trusting (accounts : List (Signed TrustedAccount)) : (trusting accounts).Keyed := by
  intro h t ht
  rw [settlements_trusting] at ht
  simp at ht

lemma addressed_trusting (accounts : List (Signed TrustedAccount)) : (trusting accounts).Addressed := by
  intro address a h
  induction accounts using List.reverseRecOn with
  | nil => simp [trusting, Store.empty] at h
  | append_singleton accounts b ih =>
    rw [trusting, List.foldl_append] at h
    change (((trusting accounts).putAccount b).accounts)[address]? = some a at h
    rw [Store.putAccount, Std.ExtTreeMap.getElem?_insert] at h
    split at h
    · rename_i hb
      cases h
      exact Std.compare_eq_iff_eq.mp hb
    · exact ih h

/-- The quote that was stored when `t` was first stored, and the price of gas that its liquidity was reckoned with. -/
def AcceptedWith (es : List Entry) (t : Settlement) (quote : Quote) : Prop :=
  ∃ e ∈ es, ∃ signature, e.deed.step = .acceptQuote t.quoteHash signature ∧
    e.before.settlements[t.quoteHash]? = none ∧ e.before.quotes[t.quoteHash]? = some quote ∧
    Acceptance.Priced e.replies quote t.requiredLiquidity

lemma AcceptedWith.mono {es es' : List Entry} {t : Settlement} {quote : Quote} (h : AcceptedWith es t quote)
    (hs : ∀ e ∈ es, e ∈ es') : AcceptedWith es' t quote := by
  obtain ⟨e, he, h⟩ := h
  exact ⟨e, hs e he, h⟩

/-- The account locks no more than its cap, or exceeds it by no more than what one quote that it has accepted locks
beyond its value and its gas fee. -/
def WithinCap (s : Store) (es : List Entry) (address : Address) (cap : Wei) : Prop :=
  s.lockedBy address ≤ cap.toNat ∨
    ∃ (hash : String) (t : Settlement) (quote : Quote), s.settlements[hash]? = some t ∧ t.owner = some address ∧ t.waits ∧
      AcceptedWith es t quote ∧
        s.lockedBy address + quote.value.toNat + quote.gasFee.toNat ≤ cap.toNat + t.requiredLiquidity.toNat

section

variable {d : Deed} {s : Store} {es : List Entry} {address : Address} {a : Signed TrustedAccount}

lemma share_owned {t : Settlement} (owner : t.owner = some address) (waits : t.waits) :
    share (fun t => t.owner = some address && t.waits) (some t) = t.requiredLiquidity.toNat := by
  simp [share, owner, waits]

lemma within_of_accepts (addressed : s.Addressed) (found : s.accounts[address]? = some a) {h : String} {quote : Quote}
    {t : Settlement} (accepts : d.Accepts s h quote t) (owner : t.owner = some address) :
    s.lockedBy address + quote.value.toNat + quote.gasFee.toNat ≤ a.value.cap.toNat := by
  obtain ⟨account, ha, ⟨address', signed, hs, rfl⟩, within⟩ := accepts.2.within address owner
  have hk := addressed address' signed hs
  rw [← hk, ha] at hs
  cases hs.symm.trans found
  rw [Acceptance.Within, ha] at within
  exact within

lemma withinCap_of_accepts (addressed : s.Addressed) (found : s.accounts[address]? = some a) {h : String}
    {quote : Quote} {t : Settlement} (accepts : d.Accepts s h quote t) (owner : t.owner = some address) :
    WithinCap (d.after s) (es ++ [⟨s, d⟩]) address a.value.cap := by
  have within := within_of_accepts addressed found accepts owner
  have waits : t.waits := by
    rw [Settlement.waits, accepts.2.prepared.state]
    rfl
  have hsum : (d.after s).lockedBy address = s.lockedBy address + t.requiredLiquidity.toNat :=
    (lockedWhere_after_of_accepts accepts _).trans (congrArg _ (share_owned owner waits))
  obtain ⟨⟨signature, step⟩, commits⟩ := accepts
  refine .inr ⟨h, t, quote, commits.lookup, owner, waits, ⟨⟨s, d⟩, by simp, signature, ?_⟩, ?_⟩
  · rw [commits.prepared.quoteHash]
    exact ⟨step, commits.fresh, commits.quoted, commits.prepared.priced⟩
  · omega

lemma withinCap_after (keyed : s.Keyed) (addressed : s.Addressed) (found : s.accounts[address]? = some a)
    (hw : WithinCap s es address a.value.cap) :
    WithinCap (d.after s) (es ++ [⟨s, d⟩]) address a.value.cap := by
  let c (t : Settlement) : Bool := t.owner = some address && t.waits
  by_cases ha : ∃ h quote t, d.Accepts s h quote t ∧ c t
  · obtain ⟨h, quote, t, accepts, hc⟩ := ha
    exact withinCap_of_accepts addressed found accepts (by simpa using (Bool.and_eq_true_iff.mp hc).1)
  have hle : (d.after s).lockedBy address ≤ s.lockedBy address := lockedWhere_after_le (awaiting_owned address) d keyed ha
  rcases hw with hw | ⟨h, t, quote, stored, owner, waits, accepted, hw⟩
  · exact .inl (hle.trans hw)
  have accepted := accepted.mono fun e he => List.mem_append_left [⟨s, d⟩] he
  cases effect d keyed h with
  | kept after =>
    refine .inr ⟨h, t, quote, after.trans stored, owner, waits, accepted, ?_⟩
    omega
  | accepted signature quote' u step commits => exact absurd (commits.fresh.symm.trans stored) nofun
  | observed txid u found' state after =>
    cases found'.symm.trans stored
    refine .inr ⟨h, t.observed txid, quote, after, owner, rfl, accepted, ?_⟩
    exact (Nat.add_le_add_right (Nat.add_le_add_right hle _) _).trans hw
  | released u stored' key state after =>
    -- what `t` locks beyond its value and gas fee is free again
    have hn : share c (d.after s).settlements[h]? + t.requiredLiquidity.toNat ≤ share c s.settlements[h]? := by
      rw [after, stored, share_owned owner waits, share_some_of_false, Nat.zero_add]
      simp [c, Settlement.waits_eq_contains, state]
    have hsum : (d.after s).lockedBy address + t.requiredLiquidity.toNat ≤ s.lockedBy address :=
      Store.lockedWhere_add_le c s (d.after s) (share_after_le (awaiting_owned address) d keyed ha) h hn
    left
    omega

end

lemma addressed_play (accounts : List (Signed TrustedAccount)) (ds : List Deed) :
    (play (trusting accounts) ds).Addressed := by
  rw [Store.Addressed, accounts_play (keyed_trusting accounts)]
  exact addressed_trusting accounts

lemma within_of_stored {d : Deed} {s : Store} (keyed : s.Keyed)
    (addressed : s.Addressed) {h : String} {t : Settlement} {owner : Address}
    (fresh : s.settlements[h]? = none) (stored : (d.after s).settlements[h]? = some t) (ho : t.owner = some owner) :
    ∃ quote a, s.quotes[h]? = some quote ∧ s.accounts[owner]? = some a ∧
      s.lockedBy owner + quote.value.toNat + quote.gasFee.toNat ≤ a.value.cap.toNat := by
  cases effect d keyed h with
  | kept after => exact absurd (after.symm.trans stored) (by rw [fresh]; nofun)
  | accepted signature quote u step commits =>
    cases commits.lookup.symm.trans stored
    obtain ⟨account, ha, ⟨address, a, found, rfl⟩, -⟩ := commits.within owner ho
    have hk := addressed address a found
    rw [← hk, ha] at found
    exact ⟨quote, a, commits.quoted, found, within_of_accepts addressed found ⟨⟨signature, step⟩, commits⟩ ho⟩
  | observed txid u found => exact absurd (fresh.symm.trans found) nofun
  | released u hm => exact absurd hm ((s.lookup_eq_none_iff h).mp fresh)

/-- A settlement that is stored for the first time leaves its owner within the cap, with the quote weighed by its value
and its gas fee; so what an account locks exceeds its cap by no more than what these leave out of one quote. -/
theorem locked_within_cap (accounts : List (Signed TrustedAccount)) (ds : List Deed) :
    (∀ e ∈ entries (trusting accounts) ds, ∀ (h : String) (t : Settlement) (owner : Address),
      e.before.settlements[h]? = none → (e.deed.after e.before).settlements[h]? = some t → t.owner = some owner →
        ∃ quote a, e.before.quotes[h]? = some quote ∧ e.before.accounts[owner]? = some a ∧
          e.before.lockedBy owner + quote.value.toNat + quote.gasFee.toNat ≤ a.value.cap.toNat) ∧
      ∀ (address : Address) (a : Signed TrustedAccount), (play (trusting accounts) ds).accounts[address]? = some a →
        WithinCap (play (trusting accounts) ds) (entries (trusting accounts) ds) address a.value.cap := by
  have keyed := keyed_trusting accounts
  constructor
  · intro e he h t owner fresh stored ho
    obtain ⟨before, after, -, hb⟩ := exists_of_mem_entries _ _ he
    exact within_of_stored (hb ▸ keyed_play keyed before) (hb ▸ addressed_play accounts before) fresh stored ho
  · induction ds using List.reverseRecOn with
    | nil =>
      intro address a _
      left
      rw [play_nil, Store.lockedBy, Store.lockedWhere_eq_zero _ _ (settlements_trusting accounts)]
      exact Nat.zero_le _
    | append_singleton ds d ih =>
      intro address a found
      rw [play_concat, entries_concat]
      have keyed := keyed_play keyed ds
      rw [play_concat, Deed.accounts_after keyed] at found
      exact withinCap_after keyed (addressed_play accounts ds) found (ih address a found)

namespace Sample

def signature : String :=
  "79be667ef9dcbbac55a06295ce870b07029bfcdb2dce28d959f2815b16f81798" ++
    "0000000000000000000000000000000000000000000000000000000000000001" ++ "1b"

def signer : Address :=
  ⟨[0x7c, 0x6f, 0x2a, 0x8b, 0x03, 0xfa, 0xcf, 0x66, 0xeb, 0x25, 0x21, 0x30, 0x8d, 0xc8, 0xaf, 0xd0, 0x7a, 0xfa, 0x1f,
    0x44], rfl⟩

def account : Signed TrustedAccount :=
  let value : TrustedAccount := ⟨signer, "", 0, .ofUInt64 21500⟩
  ⟨value, Hex.encode (Signed.valueHash value).toBytes, ""⟩

def signedAcceptance : Deed := deed 0 (.acceptQuote hash (some signature))

def signedQuote : List Deed := [deed 0 (.getQuote request), signedAcceptance]

def quoted : Store := (deed 0 (.getQuote request)).after (trusting [account])

lemma account_trusted (ds : List Deed) : (play (trusting [account]) ds).accounts[signer]? = some account := by
  rw [accounts_play (keyed_trusting [account])]
  exact Std.ExtTreeMap.getElem?_insert_self

lemma mem_entries_signedQuote : ⟨quoted, signedAcceptance⟩ ∈ entries (trusting [account]) signedQuote :=
  mem_entries_concat (trusting [account]) signedAcceptance [deed 0 (.getQuote request)]

lemma settlement_of_quoted : quoted.settlements[hash]? = none := by
  have spares := Quoting.price_spares request (deed 0 (.getQuote request)).surroundings (.start (trusting [account]))
  rw [← Deed.trace_of_getQuote rfl] at spares
  rw [quoted, Deed.after, spares.settlements, Trace.start, settlements_trusting]
  rfl

lemma settlement_of_signedAcceptance :
    ((signedAcceptance.after quoted).settlements[hash]?).map
      (fun t => (t.owner, t.state, t.requiredLiquidity.toNat)) = some (some signer, .waitingForDeposit, 201500) := by
  decide +kernel

lemma locked_after_signedAcceptance : 201500 ≤ (signedAcceptance.after quoted).lockedBy signer := by
  obtain ⟨t, ht, heq⟩ := Option.map_eq_some_iff.mp settlement_of_signedAcceptance
  simp only [Prod.mk.injEq] at heq
  obtain ⟨owner, state, amount⟩ := heq
  have kind : (t.owner = some signer && t.waits) = true := by simp [Settlement.waits, owner, state]
  exact amount ▸ Store.le_lockedWhere _ _ ht kind

end Sample

theorem account_within_cap :
    (∃ quote a, Sample.quoted.quotes[Sample.hash]? = some quote ∧ Sample.quoted.accounts[Sample.signer]? = some a ∧
      Sample.quoted.lockedBy Sample.signer + quote.value.toNat + quote.gasFee.toNat ≤ a.value.cap.toNat) ∧
    WithinCap (play (trusting [Sample.account]) Sample.signedQuote)
      (entries (trusting [Sample.account]) Sample.signedQuote) Sample.signer Sample.account.value.cap := by
  have within := locked_within_cap [Sample.account] Sample.signedQuote
  obtain ⟨t, stored, heq⟩ := Option.map_eq_some_iff.mp Sample.settlement_of_signedAcceptance
  have first := within.1 _ Sample.mem_entries_signedQuote Sample.hash t Sample.signer
  dsimp only at first
  exact ⟨first Sample.settlement_of_quoted stored (Prod.mk.inj heq).1, within.2 _ _ (Sample.account_trusted _)⟩

theorem locks_beyond_cap : ¬ ∀ (accounts : List (Signed TrustedAccount)) (ds : List Deed) (address : Address)
    (a : Signed TrustedAccount), (play (trusting accounts) ds).accounts[address]? = some a →
      (play (trusting accounts) ds).lockedBy address ≤ a.value.cap.toNat := by
  intro h
  have hle := h [Sample.account] Sample.signedQuote Sample.signer
    Sample.account (Sample.account_trusted _)
  rw [Sample.signedQuote, play_cons, play_cons, play_nil] at hle
  have hlt : (21500 : Nat) < 201500 := by decide
  exact absurd (Sample.locked_after_signedAcceptance.trans hle) (Nat.not_le.mpr hlt)

end Flyover
