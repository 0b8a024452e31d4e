import Flyover.Proofs.LockingCap
import Flyover.Proofs.SignerRecovery

/-! An acceptance happens as a whole or not at all, and what it enters is what it has weighed. -/

namespace Flyover

lemma Signed.spells_of_isIntact {α : Type} [Json.Encode α] {s : Signed α} (intact : s.isIntact) :
    Hex.Spells (keccak256 (Bytes.ofText (Json.text (Json.encode s.value)))).toBytes s.hash := by
  have hashed : Hex.encode (valueHash s.value).toBytes = Hex.dropMarkers s.hash := of_decide_eq_true intact
  rw [← Hex.decode_dropMarkers_eq_ok_iff, ← hashed, ← Hex.dropMarkers_encode]
  exact Hex.decode_encode _

namespace Acceptance

open Run Trace

/-- Nobody owns what is accepted without a signature. Else the signer owns it, a trusted account whose record is intact and
whose cap allows the quote. -/
inductive Owns (hash : String) (s : Store) (quote : Quote) : Option String → Option Address → Prop
  | nobody : Owns hash s quote none none
  | signer {signature : String} {signer : Address} {account : Signed TrustedAccount}
      (recovered : Signature.recoverSignerText hash signature = .ok signer) (found : s.accounts[signer]? = some account)
      (intact : account.isIntact)
      (digest : Hex.Spells (keccak256 (Bytes.ofText (Json.text (Json.encode account.value)))).toBytes account.hash)
      (within : s.lockedBy signer + quote.value.toNat + quote.gasFee.toNat ≤ account.value.cap.toNat) :
      Owns hash s quote (some signature) (some signer)

/-- The settlement `t` is entered on the terms `x`, which is all that the peers are asked. What the balances leave is nothing
if they are less than what is locked, so the sum is exact only for a settlement that needs some liquidity. -/
structure Enters (hash : String) (signature : Option String) (σ : Surroundings) (s : Store) (o : Outcome Acceptance)
    (quote : Quote) (quoteHash : FixedBytes 32) (x : Terms) (t : Settlement) : Prop where
  quoted : s.quotes[hash]? = some quote
  unexpired : σ.now ≤ quote.agreedAt.toNat + quote.timeForDeposit.toNat
  result : o.result = .ok ⟨t.signature, t.depositAddress⟩
  store : o.trace.store = { s with settlements := s.settlements.insert hash t }
  events : o.trace.events = [.accepted quote t]
  spelled : Hex.Spells quoteHash.toBytes hash
  drafted : t = {
    quoteHash := hash
    depositAddress := x.depositAddress
    signature := t.signature
    requiredLiquidity := t.requiredLiquidity
    state := .waitingForDeposit
    deposit := none
    callForUser := ⟨none, 0, 0⟩
    registerPegin := ⟨none, 0, 0⟩
    owner := t.owner }
  signed : σ.settings.secretKey.Signs quoteHash t.signature
  recovered : σ.settings.secretKey.Recovers (personalMessageDigest quoteHash).toBytes →
    Signature.recoverSignerText hash t.signature = .ok σ.settings.provider
  liquidity : t.requiredLiquidity.toNat = (quote.gasLimit.toNat + 180000) * x.gasPrice.toNat + quote.value.toNat
  covered : t.requiredLiquidity.toNat ≤ x.networkBalance.toNat + x.contractBalance.toNat - s.locked
  enough : 0 < t.requiredLiquidity.toNat →
    t.requiredLiquidity.toNat + s.locked ≤ x.networkBalance.toNat + x.contractBalance.toNat
  addressed : ∃ before, before ++ [.contractAddress] <+: o.trace.calls ∧ x.bridgeContract = (σ.peers before).contractAddress
  replies : o.trace.replies σ = x.replies σ.settings.provider quote quoteHash
  owned : Owns hash s quote signature t.owner

/-- An acceptance that fails leaves everything as it is. So does one that succeeds for a quote with a settlement: it returns
what is stored there and asks nobody. Any other that succeeds enters a settlement. -/
structure Atomic (hash : String) (signature : Option String) (σ : Surroundings) (s : Store) (o : Outcome Acceptance) :
    Prop where
  failed (h : Halt) (result : o.result = .error h) : o.trace.Spares s
  known (a : Acceptance) (stored : Settlement) (result : o.result = .ok a) (found : s.settlements[hash]? = some stored) :
    a = ⟨stored.signature, stored.depositAddress⟩ ∧ o.trace.Spares s ∧ ∀ c ∈ o.trace.calls, c.isAccess
  entered (a : Acceptance) (result : o.result = .ok a) (fresh : s.settlements[hash]? = none) :
    ∃ quote quoteHash x t, Enters hash signature σ s o quote quoteHash x t

lemma Vouched.owns {hash : String} {s : Store} {quote : Quote} {signature : Option String} {account : Option TrustedAccount}
    (addressed : s.Addressed) (vouched : Vouched hash s signature account)
    (within : ∀ a, account = some a → Within s a quote) : Owns hash s quote signature (account.map fun a => a.address) := by
  cases vouched with
  | unsigned => exact .nobody
  | @signed signature signer account recovered found intact =>
    have within := within account.value rfl
    have key := addressed signer account found
    rw [Within, key] at within
    rw [Option.map_some, key]
    exact .signer recovered found intact (Signed.spells_of_isIntact intact) within

lemma entering_enters {hash : String} {signature : Option String} {σ : Surroundings} {s : Store} {quote : Quote}
    {account : Option TrustedAccount} {quoteHash : FixedBytes 32} {x : Terms} {t : Settlement} {τ : Trace}
    (addressed : s.Addressed) (considered : Considered hash signature σ s quote account)
    (within : ∀ a, account = some a → Within s a quote)
    (prepares : Prepares hash quote (account.map fun a => a.address) σ (start s) τ t quoteHash x)
    (inquired : (start s).Asks τ) :
    Enters hash signature σ s ⟨.ok ⟨t.signature, t.depositAddress⟩, entering quote t τ⟩ quote quoteHash x t := by
  have key : t.quoteHash = hash := prepares.prepared.quoteHash
  have owner := prepares.prepared.owner
  have entry : τ.Calls (fun _ => True) (entering quote t τ) := ⟨[_], rfl, by simp⟩
  have covered : t.requiredLiquidity.toNat ≤ x.networkBalance.toNat + x.contractBalance.toNat - s.locked := prepares.covered
  have signature_eq : t.signature = Hex.encode (σ.settings.secretKey.signHash quoteHash) := by
    rw [prepares.drafted, Terms.settlement]
  refine ⟨considered.quoted, ?_, rfl, ?_, ?_, Quote.decodeHash_eq_ok_iff.mp prepares.decoded, ?_, ?_, ?_,
    Quote.requiredLiquidity_eq_ok_iff.mp prepares.priced, covered, ?_, ?_, ?_, ?_⟩
  · simpa [Quote.isExpiredAt, Quote.expireTime] using considered.unexpired
  · rw [entering, inquired.store_eq, Store.setSettlement, key]
    rfl
  · show τ.events ++ _ = _
    rw [inquired.events_eq]
    rfl
  · rw [signature_eq, owner]
    exact prepares.drafted
  · rw [signature_eq]
    exact Signature.signs_encode _ _
  · intro recovers
    rw [signature_eq]
    exact Signature.recoverSignerText_of_variants prepares.decoded recovers (.refl hash) (.refl _)
  · intro some
    omega
  · obtain ⟨before, called, contract⟩ := prepares.addressed
    exact ⟨before, called.trans entry.calls_prefix, contract⟩
  · exact (replies_noting_access _).trans prepares.replies
  · rw [owner]
    exact considered.vouched.owns addressed within

end Acceptance

open Acceptance Run Trace in
theorem acceptQuote_is_atomic (hash : String) (signature : Option String) (σ : Surroundings) {s : Store}
    (addressed : s.Addressed) : Atomic hash signature σ s ((acceptQuote hash signature).exec σ s) := by
  have concluded := accept_concludes hash signature σ (start s)
  generalize ho : (accept hash signature).resume σ (start s) = o at concluded
  rw [acceptQuote, exec]
  cases concluded with
  | halted inquired =>
    obtain ⟨h, resumed, -⟩ := resume_mapError_of_error ho
    rw [resumed]
    refine ⟨fun _ _ => inquired.spares, fun _ _ result => ?_, fun _ result => ?_⟩ <;> cases result
  | @known stored t found looked =>
    have found : s.settlements[hash]? = some stored := found
    rw [resume_mapError_of_ok ho]
    refine ⟨fun _ result => ?_, fun a other result found' => ?_, fun a _ fresh => ?_⟩
    · cases result
    · cases result
      cases found.symm.trans found'
      exact ⟨rfl, looked.spares, fun c hc => (looked.calls.of_start c hc).2⟩
    · cases found.symm.trans fresh
  | entered considered fresh within prepares inquired =>
    have fresh : s.settlements[hash]? = none := fresh
    rw [resume_mapError_of_ok ho]
    refine ⟨fun _ result => ?_, fun _ _ _ found => ?_, fun _ _ _ => ?_⟩
    · cases result
    · cases fresh.symm.trans found
    · exact ⟨_, _, _, _, entering_enters addressed considered within prepares inquired⟩

namespace Sample

lemma addressed_quoted : quoted.Addressed := by
  have addressed := addressed_play [account] [deed 0 (.getQuote request)]
  rw [play_cons, play_nil] at addressed
  exact addressed

lemma after_signedAcceptance : signedAcceptance.after quoted =
    ((acceptQuote hash (some signature)).exec signedAcceptance.surroundings quoted).trace.store := by
  rw [Deed.after, @Deed.trace_of_acceptQuote signedAcceptance quoted hash (some signature) rfl, acceptQuote, Run.exec,
    Run.trace_mapError]

end Sample

open Sample in
theorem signedAcceptance_enters : quoted.Addressed ∧
    settings.secretKey.Recovers (personalMessageDigest hashBytes).toBytes ∧ ∃ quote x t,
      Acceptance.Enters hash (some signature) signedAcceptance.surroundings quoted
        ((acceptQuote hash (some signature)).exec signedAcceptance.surroundings quoted) quote hashBytes x t ∧
      Signature.recoverSignerText hash t.signature = .ok settings.provider ∧ t.owner = some signer ∧
      t.requiredLiquidity.toNat = 201500 := by
  have atomic := acceptQuote_is_atomic hash (some signature) signedAcceptance.surroundings addressed_quoted
  obtain ⟨t, stored, accepted⟩ := Option.map_eq_some_iff.mp settlement_of_signedAcceptance
  simp only [Prod.mk.injEq] at accepted
  obtain ⟨owner, -, amount⟩ := accepted
  rw [after_signedAcceptance] at stored
  refine ⟨addressed_quoted, recovers_hashBytes, ?_⟩
  generalize (acceptQuote hash (some signature)).exec signedAcceptance.surroundings quoted = o at atomic stored ⊢
  cases hr : o.result with
  | error h =>
    rw [(atomic.failed h hr).store, settlement_of_quoted] at stored
    cases stored
  | ok a =>
    obtain ⟨quote, quoteHash, x, u, enters⟩ := atomic.entered a hr settlement_of_quoted
    have decoded := decodeHash_hash.symm.trans (Quote.decodeHash_eq_ok_iff.mpr enters.spelled)
    cases decoded
    rw [enters.store] at stored
    have same : u = t := Option.some_inj.mp (Std.ExtTreeMap.getElem?_insert_self.symm.trans stored)
    subst same
    exact ⟨quote, x, u, enters, enters.recovered recovers_hashBytes, owner, amount⟩

end Flyover
