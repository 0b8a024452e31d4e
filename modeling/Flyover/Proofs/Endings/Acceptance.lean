import Flyover.Acceptance
import Flyover.Proofs.StoredLiquidity
import Flyover.Proofs.WeiSum

/-! The ways in which an acceptance ends. -/

namespace Flyover

namespace Liquidity

open Run Trace

lemma locked_eq_fit (l : List Settlement) : locked l = Wei.fit "addition" (Settlement.lockedSum l) := by
  rw [locked, Wei.sum_eq_fit, List.map_map]
  rfl

lemma locked_eq_ok_iff {l : List Settlement} {a : Wei} : locked l = .ok a ↔ a.toNat = Settlement.lockedSum l := by
  rw [locked_eq_fit, Wei.fit_eq_ok_iff]

lemma available_inquires : available.Keeps Trace.Asks := by
  refine .bind .settings fun settings => ?_
  refine .bind (.inquire rfl) fun networkBalance => ?_
  refine .bind (.inquire rfl) fun contractBalance => ?_
  refine .bind (.look rfl) fun settlements => ?_
  refine .bind (.lift _) fun locked => ?_
  exact .bind (.lift _) fun held => .pure _

lemma require_inquires (amount : Wei) : (require amount).Keeps Trace.Asks := by
  refine .bind available_inquires fun available => ?_
  exact .ite (.fail _) (.pure _)

def Covered (provider : Address) (replies : List Reply) (s : Store) (amount : Wei) : Prop :=
  ∃ x y : Wei, ⟨.balance provider, .ok x⟩ ∈ replies ∧ ⟨.contractBalance provider, .ok y⟩ ∈ replies ∧
    amount.toNat ≤ x.toNat + y.toNat - s.locked

lemma resume_available_eq_ok {σ : Surroundings} {t t' : Trace} {amount : Wei}
    (h : available.resume σ t = ⟨.ok amount, t'⟩) :
    ∃ x y : Wei, amount.toNat = x.toNat + y.toNat - t.store.locked ∧
      t'.replies σ = t.replies σ ++
        [⟨.balance σ.settings.provider, .ok x⟩, ⟨.contractBalance σ.settings.provider, .ok y⟩] := by
  simp only [available, availableAs, resume_bind_eq_ok_iff, resume_settings_eq_ok_iff, resume_access_eq_ok_iff,
    resume_lift_eq_ok_iff, resume_pure_eq_ok_iff] at h
  obtain ⟨settings, _, ⟨rfl, rfl⟩, x, t₁, hx, y, t₂, hy, _, _, ⟨-, rfl, rfl⟩, locked, _, ⟨hl, rfl⟩, held, _,
    ⟨hh, rfl⟩, rfl, rfl⟩ := h
  have hx' := replies_of_resume_ask hx
  have hy' := replies_of_resume_ask hy
  obtain ⟨-, rfl⟩ := resume_ask_eq_ok_iff.mp hx
  obtain ⟨-, rfl⟩ := resume_ask_eq_ok_iff.mp hy
  refine ⟨x, y, ?_, ?_⟩
  · rw [Wei.toNat_monus, Wei.add_eq_ok_iff.mp hh, locked_eq_ok_iff.mp hl, ← Store.lockedSum_settlementsIn]
    rfl
  · rw [replies_noting_access, hy', hx', List.append_assoc]
    rfl

lemma resume_require_eq_ok {amount : Wei} {σ : Surroundings} {t t' : Trace} {u : Unit}
    (h : (require amount).resume σ t = ⟨.ok u, t'⟩) :
    ∃ x y : Wei, amount.toNat ≤ x.toNat + y.toNat - t.store.locked ∧
      t'.replies σ = t.replies σ ++
        [⟨.balance σ.settings.provider, .ok x⟩, ⟨.contractBalance σ.settings.provider, .ok y⟩] := by
  obtain ⟨free, t₁, hf, h⟩ := resume_bind_eq_ok_iff.mp h
  obtain ⟨x, y, hfree, replies⟩ := resume_available_eq_ok hf
  split at h
  · cases h
  rename_i hn
  obtain ⟨-, rfl⟩ := resume_pure_eq_ok_iff.mp h
  exact ⟨x, y, hfree ▸ Nat.le_of_not_lt hn, replies⟩

end Liquidity

namespace Acceptance

open Run Trace

lemma trustedAccount_looks (hash signature : String) : (trustedAccount hash signature).Keeps Trace.Looks := by
  refine .bind (.lift _) fun address => ?_
  refine .bind (.look ⟨rfl, rfl⟩) fun found => ?_
  refine .bind (.require _ _) fun account => ?_
  exact .bind (.check _ _) fun _ => .pure _

lemma checkCap_looks (account : TrustedAccount) (quote : Quote) : (checkCap account quote).Keeps Trace.Looks := by
  refine .bind (.look ⟨rfl, rfl⟩) fun settlements => ?_
  refine .bind (.lift _) fun locked => ?_
  refine .bind (.lift _) fun withValue => ?_
  refine .bind (.lift _) fun requested => ?_
  exact .ite (.fail _) (.pure _)

lemma depositAddressOf_inquires (hash : String) (quote : Quote) :
    (depositAddressOf hash quote).Keeps Trace.Asks := by
  refine .bind (.lift _) fun quoteHash => ?_
  refine .bind (.inquire rfl) fun userAddress => ?_
  refine .bind (.inquire rfl) fun providerAddress => ?_
  refine .bind (.inquire rfl) fun federation => ?_
  refine .bind (.contractAddress fun _ => inquires_noting rfl) fun bridgeContract => ?_
  exact .inquire rfl

def Known (s : Store) (account : TrustedAccount) : Prop :=
  ∃ (address : Address) (signed : Signed TrustedAccount), s.accounts[address]? = some signed ∧ signed.value = account

inductive Vouched (hash : String) (s : Store) : Option String → Option TrustedAccount → Prop
  | unsigned : Vouched hash s none none
  | signed {signature : String} {signer : Address} {account : Signed TrustedAccount}
      (recovered : Signature.recoverSignerText hash signature = .ok signer) (found : s.accounts[signer]? = some account)
      (intact : account.isIntact) : Vouched hash s (some signature) (some account.value)

lemma Vouched.known {hash : String} {s : Store} {signature : Option String} {account : Option TrustedAccount}
    (h : Vouched hash s signature account) : ∀ a, account = some a → Known s a := by
  rintro a rfl
  cases h with
  | @signed _ signer account recovered found intact => exact ⟨signer, account, found, rfl⟩

lemma vouched_of_resume_mapM_eq_ok {hash : String} {signature : Option String} {σ : Surroundings} {t t' : Trace}
    {account : Option TrustedAccount} (h : (signature.mapM (trustedAccount hash)).resume σ t = ⟨.ok account, t'⟩) :
    Vouched hash t.store signature account := by
  cases signature with
  | none =>
    rw [Option.mapM_none] at h
    obtain ⟨rfl, -⟩ := resume_pure_eq_ok_iff.mp h
    exact .unsigned
  | some signature =>
    simp only [Option.mapM_some, map_eq_pure_bind, trustedAccount, findAccount, resume_bind_eq_ok_iff,
      resume_lift_eq_ok_iff, resume_access_eq_ok_iff, resume_require_eq_ok_iff, resume_check_eq_ok_iff,
      resume_pure_eq_ok_iff] at h
    obtain ⟨_, _, ⟨signer, _, ⟨recovered, rfl⟩, _, _, ⟨-, rfl, rfl⟩, account, _, ⟨found, rfl⟩, _, _, ⟨intact, rfl⟩, rfl, rfl⟩,
      rfl, rfl⟩ := h
    exact .signed recovered found intact

def Within (s : Store) (account : TrustedAccount) (quote : Quote) : Prop :=
  s.lockedBy account.address + quote.value.toNat + quote.gasFee.toNat ≤ account.cap.toNat

lemma checkCap_eq (account : TrustedAccount) (quote : Quote) :
    checkCap account quote = (do
      let settlements ← Run.settlementsOf account.address Settlement.State.locking
      let requested ← Wei.fit "addition" (Settlement.lockedSum settlements + quote.value.toNat + quote.gasFee.toNat)
      if account.cap < requested then Run.fail (.lockingCapExceeded requested account.cap)) := by
  refine bind_congr fun settlements => ?_
  rw [← Wei.fit_bind_add, ← Wei.fit_bind_add, ← Liquidity.locked_eq_fit]
  simp only [liftM_bind, bind_assoc]

lemma within_of_resume_checkCap_eq_ok {account : TrustedAccount} {quote : Quote} {σ : Surroundings} {t t' : Trace}
    {u : Unit} (h : (checkCap account quote).resume σ t = ⟨.ok u, t'⟩) : Within t'.store account quote := by
  simp only [checkCap_eq, settlementsOf, resume_bind_eq_ok_iff, resume_lift_eq_ok_iff, resume_access_eq_ok_iff] at h
  obtain ⟨_, _, ⟨-, rfl, rfl⟩, requested, _, ⟨sum, rfl⟩, h⟩ := h
  split at h
  · cases h
  rename_i hn
  obtain ⟨-, rfl⟩ := resume_pure_eq_ok_iff.mp h
  rw [Within, store_noting, ← Store.lockedSum_settlementsOf, ← Wei.fit_eq_ok_iff.mp sum]
  exact Nat.le_of_not_lt hn

def engage (price : Wei → Except Error Wei) (hash : String) (quote : Quote) (account : Option TrustedAccount) :
    Run Acceptance := do
  let depositAddress ← depositAddressOf hash quote
  let gasPrice ← ask .gasPrice
  let requiredLiquidity ← price gasPrice
  mapError (.inUseCase .acceptQuote ((ErrorArgs.single "quoteHash" hash).insert "amount" requiredLiquidity.text))
    (Liquidity.require requiredLiquidity)
  let signature ← (← settings).secretKey.signQuoteHash hash
  let settlement : Settlement := {
    quoteHash := hash
    depositAddress
    signature
    requiredLiquidity
    state := .waitingForDeposit
    deposit := none
    callForUser := .none
    registerPegin := .none
    owner := account.map fun a => a.address }
  insertSettlement settlement
  publish (.accepted quote settlement)
  return { signature, depositAddress }

-- The price is a variable in `engage`: the two sides agree without a look into it.
lemma commit_none (hash : String) (quote : Quote) :
    commit hash quote none = engage quote.requiredLiquidity hash quote none := by
  unfold commit engage
  exact rfl

lemma commit_some (hash : String) (quote : Quote) (a : TrustedAccount) :
    commit hash quote (some a) =
      checkCap a quote >>= fun _ => engage quote.requiredLiquidity hash quote (some a) := by
  unfold commit engage
  exact rfl

def prepare (price : Wei → Except Error Wei) (hash : String) (quote : Quote) (owner : Option Address) :
    Run Settlement := do
  let depositAddress ← depositAddressOf hash quote
  let gasPrice ← ask .gasPrice
  let requiredLiquidity ← price gasPrice
  mapError (.inUseCase .acceptQuote ((ErrorArgs.single "quoteHash" hash).insert "amount" requiredLiquidity.text))
    (Liquidity.require requiredLiquidity)
  let signature ← (← settings).secretKey.signQuoteHash hash
  return {
    quoteHash := hash
    depositAddress
    signature
    requiredLiquidity
    state := .waitingForDeposit
    deposit := none
    callForUser := .none
    registerPegin := .none
    owner }

def enter (quote : Quote) (s : Settlement) : Run Acceptance := do
  insertSettlement s
  publish (.accepted quote s)
  return { signature := s.signature, depositAddress := s.depositAddress }

lemma engage_eq (price : Wei → Except Error Wei) (hash : String) (quote : Quote) (account : Option TrustedAccount) :
    engage price hash quote account = prepare price hash quote (account.map fun a => a.address) >>= enter quote := by
  simp only [engage, prepare, enter, bind_assoc, pure_bind]

lemma prepare_inquires (price : Wei → Except Error Wei) (hash : String) (quote : Quote) (owner : Option Address) :
    (prepare price hash quote owner).Keeps Trace.Asks := by
  refine .bind (depositAddressOf_inquires hash quote) fun depositAddress => ?_
  refine .bind (.inquire rfl) fun gasPrice => ?_
  refine .bind (.lift _) fun requiredLiquidity => ?_
  refine .bind (.mapError (Liquidity.require_inquires _)) fun _ => ?_
  refine .bind .settings fun settings => ?_
  exact .bind (.lift _) fun signature => .pure _

lemma replies_of_looks {σ : Surroundings} {t t' : Trace} (looked : t.Looks t') : t'.replies σ = t.replies σ := by
  obtain ⟨cs, rfl, hcs⟩ := looked
  rw [Trace.replies, calls_notingAll, replies_append, replies_eq_nil _ _ fun c hc => (hcs c hc).2, List.append_nil]
  rfl

def Priced (replies : List Reply) (quote : Quote) (amount : Wei) : Prop :=
  ∃ gasPrice : Wei, ⟨.gasPrice, .ok gasPrice⟩ ∈ replies ∧ quote.requiredLiquidity gasPrice = .ok amount

structure Prepared (hash : String) (quote : Quote) (owner : Option Address) (provider : Address)
    (replies : List Reply) (store : Store) (s : Settlement) : Prop where
  quoteHash : s.quoteHash = hash
  state : s.state = .waitingForDeposit
  owner : s.owner = owner
  priced : Priced replies quote s.requiredLiquidity
  covered : Liquidity.Covered provider replies store s.requiredLiquidity

structure Terms where
  userAddress : Bytes
  providerAddress : Bytes
  federation : Federation
  bridgeContract : Address
  depositAddress : String
  gasPrice : Wei
  networkBalance : Wei
  contractBalance : Wei

namespace Terms

def derivation (x : Terms) (quoteHash : FixedBytes 32) : Derivation where
  federation := x.federation
  bridgeContract := x.bridgeContract
  userAddress := x.userAddress
  providerAddress := x.providerAddress
  quoteHash

def replies (x : Terms) (provider : Address) (quote : Quote) (quoteHash : FixedBytes 32) : List Reply :=
  [⟨.decodeBitcoinAddress quote.userBitcoinAddress, .ok x.userAddress⟩,
    ⟨.decodeBitcoinAddress quote.providerBitcoinAddress, .ok x.providerAddress⟩, ⟨.federation, .ok x.federation⟩,
    ⟨.depositAddress (x.derivation quoteHash), .ok x.depositAddress⟩, ⟨.gasPrice, .ok x.gasPrice⟩,
    ⟨.balance provider, .ok x.networkBalance⟩, ⟨.contractBalance provider, .ok x.contractBalance⟩]

def settlement (x : Terms) (key : SecretKey) (hash : String) (quoteHash : FixedBytes 32) (requiredLiquidity : Wei)
    (owner : Option Address) : Settlement where
  quoteHash := hash
  depositAddress := x.depositAddress
  signature := Hex.encode (key.signHash quoteHash)
  requiredLiquidity
  state := .waitingForDeposit
  deposit := none
  callForUser := .none
  registerPegin := .none
  owner

end Terms

lemma resume_depositAddressOf_eq_ok {hash : String} {quote : Quote} {σ : Surroundings} {t t' : Trace} {a : String}
    (h : (depositAddressOf hash quote).resume σ t = ⟨.ok a, t'⟩) :
    ∃ quoteHash userAddress providerAddress federation before, Quote.decodeHash hash = .ok quoteHash ∧
      before ++ [.contractAddress] <+: t'.calls ∧
      t'.replies σ = t.replies σ ++ [⟨.decodeBitcoinAddress quote.userBitcoinAddress, .ok userAddress⟩,
        ⟨.decodeBitcoinAddress quote.providerBitcoinAddress, .ok providerAddress⟩, ⟨.federation, .ok federation⟩,
        ⟨.depositAddress ⟨federation, (σ.peers before).contractAddress, userAddress, providerAddress, quoteHash⟩, .ok a⟩] := by
  simp only [depositAddressOf, resume_bind_eq_ok_iff, resume_lift_eq_ok_iff, resume_contractAddress_eq_ok_iff] at h
  obtain ⟨quoteHash, _, ⟨decoded, rfl⟩, user, _, hu, provider, _, hp, federation, t₁, hf, _, _, ⟨rfl, rfl⟩, ha⟩ := h
  have replies := replies_of_resume_ask ha
  rw [replies_noting_contractAddress, replies_of_resume_ask hf, replies_of_resume_ask hp, replies_of_resume_ask hu] at replies
  obtain ⟨-, rfl⟩ := resume_ask_eq_ok_iff.mp ha
  refine ⟨quoteHash, user, provider, federation, t₁.calls, decoded, List.prefix_append _ _, ?_⟩
  rw [replies]
  simp only [List.append_assoc, List.cons_append, List.nil_append]

lemma signQuoteHash_eq {hash : String} {quoteHash : FixedBytes 32} (key : SecretKey)
    (decoded : Quote.decodeHash hash = .ok quoteHash) :
    key.signQuoteHash hash = .ok (Hex.encode (key.signHash quoteHash)) := by
  simp only [SecretKey.signQuoteHash, decoded, bind, Except.bind, pure, Except.pure]

structure Prepares (hash : String) (quote : Quote) (owner : Option Address) (σ : Surroundings) (t t' : Trace)
    (s : Settlement) (quoteHash : FixedBytes 32) (x : Terms) : Prop where
  decoded : Quote.decodeHash hash = .ok quoteHash
  drafted : s = x.settlement σ.settings.secretKey hash quoteHash s.requiredLiquidity owner
  priced : quote.requiredLiquidity x.gasPrice = .ok s.requiredLiquidity
  covered : s.requiredLiquidity.toNat ≤ x.networkBalance.toNat + x.contractBalance.toNat - t.store.locked
  addressed : ∃ before, before ++ [.contractAddress] <+: t'.calls ∧ x.bridgeContract = (σ.peers before).contractAddress
  replies : t'.replies σ = t.replies σ ++ x.replies σ.settings.provider quote quoteHash

lemma prepares_of_resume_prepare_eq_ok {hash : String} {quote : Quote} {owner : Option Address} {σ : Surroundings}
    {t t' : Trace} {s : Settlement} (h : (prepare quote.requiredLiquidity hash quote owner).resume σ t = ⟨.ok s, t'⟩) :
    ∃ quoteHash x, Prepares hash quote owner σ t t' s quoteHash x := by
  simp only [prepare, resume_bind_eq_ok_iff, resume_lift_eq_ok_iff, resume_mapError_eq_ok_iff,
    resume_settings_eq_ok_iff, resume_pure_eq_ok_iff] at h
  obtain ⟨depositAddress, t₁, ha, gasPrice, t₂, hg, amount, _, ⟨priced, rfl⟩, _, t₃, hr, settings, _, ⟨rfl, rfl⟩, signature, _,
    ⟨hs, rfl⟩, rfl, rfl⟩ := h
  have h₁ := (depositAddressOf_inquires hash quote).of_resume ha
  have h₂ := (Keeps.inquire (p := fun c => c.isPassive) (q := .gasPrice) rfl).of_resume hg
  have h₃ := (Liquidity.require_inquires amount).of_resume hr
  obtain ⟨quoteHash, userAddress, providerAddress, federation, before, decoded, called, replies⟩ :=
    resume_depositAddressOf_eq_ok ha
  obtain ⟨networkBalance, contractBalance, covered, balances⟩ := Liquidity.resume_require_eq_ok hr
  rw [h₂.store_eq, h₁.store_eq] at covered
  rw [replies_of_resume_ask hg, replies] at balances
  refine ⟨quoteHash, ⟨userAddress, providerAddress, federation, (σ.peers before).contractAddress, depositAddress, gasPrice,
    networkBalance, contractBalance⟩, decoded, ?_, priced, covered, ⟨before, ?_, rfl⟩, ?_⟩
  · rw [signQuoteHash_eq _ decoded, Except.ok.injEq] at hs
    rw [← hs]
    rfl
  · exact called.trans ((h₂.calls.calls_prefix).trans h₃.calls.calls_prefix)
  · rw [balances, Terms.replies]
    simp only [List.append_assoc, List.cons_append, List.nil_append]
    rfl

lemma Prepares.of_looks {hash : String} {quote : Quote} {owner : Option Address} {σ : Surroundings} {t t' t'' : Trace}
    {s : Settlement} {quoteHash : FixedBytes 32} {x : Terms} (looked : t.Looks t')
    (h : Prepares hash quote owner σ t' t'' s quoteHash x) : Prepares hash quote owner σ t t'' s quoteHash x where
  decoded := h.decoded
  drafted := h.drafted
  priced := h.priced
  covered := looked.store_eq ▸ h.covered
  addressed := h.addressed
  replies := by rw [h.replies, replies_of_looks looked]

/-! An acceptance considers what there is under the hash. For a quote that is accepted for the first time it weighs the
cap, prepares the settlement and enters it. Up to the entry it only inquires. -/

def consider (hash : String) (signature : Option String) : Run ((Quote × Option TrustedAccount) × Option Settlement) := do
  let quote ← (← findQuote hash) |> require .quoteNotFound
  check (!quote.isExpiredAt (← now)) .expiredQuote
  let account ← signature.mapM (trustedAccount hash)
  acquire .liquidity
  return ((quote, account), ← findSettlement hash)

def weigh (quote : Quote) : Option TrustedAccount → Run Unit
  | none => pure ()
  | some account => checkCap account quote

lemma accept_eq (hash : String) (signature : Option String) :
    accept hash signature = consider hash signature >>= fun c => match c.2 with
      | some s => pure ⟨s.signature, s.depositAddress⟩
      | none => commit hash c.1.1 c.1.2 := by
  simp only [consider, bind_assoc, pure_bind]
  rfl

lemma commit_eq (hash : String) (quote : Quote) (account : Option TrustedAccount) :
    commit hash quote account = weigh quote account >>= fun _ =>
      prepare quote.requiredLiquidity hash quote (account.map fun a => a.address) >>= enter quote := by
  cases account with
  | none => rw [commit_none, engage_eq, weigh, pure_bind]
  | some account => rw [commit_some, engage_eq, weigh]

lemma consider_looks (hash : String) (signature : Option String) : (consider hash signature).Keeps Trace.Looks := by
  refine .bind (.look ⟨rfl, rfl⟩) fun found => ?_
  refine .bind (.require _ _) fun quote => ?_
  refine .bind .now fun now => ?_
  refine .bind (.check _ _) fun _ => ?_
  refine .bind (.mapM_option _ (trustedAccount_looks hash)) fun account => ?_
  refine .bind (.acquire _) fun _ => ?_
  exact .bind (.look ⟨rfl, rfl⟩) fun found => .pure _

lemma weigh_looks (quote : Quote) (account : Option TrustedAccount) : (weigh quote account).Keeps Trace.Looks := by
  cases account with
  | none => exact .pure ()
  | some account => exact checkCap_looks account quote

structure Considered (hash : String) (signature : Option String) (σ : Surroundings) (s : Store) (quote : Quote)
    (account : Option TrustedAccount) : Prop where
  quoted : s.quotes[hash]? = some quote
  unexpired : quote.isExpiredAt σ.now = false
  vouched : Vouched hash s signature account

lemma considered_of_resume_consider_eq_ok {hash : String} {signature : Option String} {σ : Surroundings} {t t' : Trace}
    {c : (Quote × Option TrustedAccount) × Option Settlement} (h : (consider hash signature).resume σ t = ⟨.ok c, t'⟩) :
    Considered hash signature σ t.store c.1.1 c.1.2 ∧ t.store.settlements[hash]? = c.2 := by
  simp only [consider, findQuote, findSettlement, resume_bind_eq_ok_iff, resume_check_eq_ok_iff, resume_require_eq_ok_iff,
    resume_access_eq_ok_iff, resume_now_eq_ok_iff, resume_acquire_eq_ok_iff, resume_pure_eq_ok_iff] at h
  obtain ⟨_, _, ⟨-, rfl, rfl⟩, quote, _, ⟨quoted, rfl⟩, _, _, ⟨rfl, rfl⟩, _, _, ⟨unexpired, rfl⟩, account, t₁, ha, _, _,
    ⟨-, rfl⟩, _, _, ⟨-, rfl, rfl⟩, rfl, rfl⟩ := h
  have vouched := vouched_of_resume_mapM_eq_ok ha
  have looked := (Keeps.mapM_option signature (trustedAccount_looks hash)).of_resume ha
  exact ⟨⟨quoted, by simpa using unexpired, vouched⟩, by rw [looked.store_eq]; rfl⟩

lemma within_of_resume_weigh_eq_ok {account : Option TrustedAccount} {quote : Quote} {σ : Surroundings} {t t' : Trace}
    {u : Unit} (h : (weigh quote account).resume σ t = ⟨.ok u, t'⟩) : ∀ a, account = some a → Within t'.store a quote := by
  rintro a rfl
  exact within_of_resume_checkCap_eq_ok h

def entering (quote : Quote) (s : Settlement) (t : Trace) : Trace :=
  { (t.noting (.access (.insertSettlement s.quoteHash))).publishing (.accepted quote s) with
    store := t.store.setSettlement s }

lemma resume_enter_cases (quote : Quote) (s : Settlement) (σ : Surroundings) (t : Trace) :
    (∃ h, (enter quote s).resume σ t = ⟨.error h, t.noting (.access (.insertSettlement s.quoteHash))⟩) ∨
      (enter quote s).resume σ t = ⟨.ok ⟨s.signature, s.depositAddress⟩, entering quote s t⟩ := by
  rw [enter, resume_bind, insertSettlement, resume_change]
  cases (σ.peers t.calls).outage (.insertSettlement s.quoteHash) with
  | some e => exact .inl ⟨_, rfl⟩
  | none =>
    by_cases hs : s.quoteHash ∈ t.store.settlements
    · simp only [Store.insertSettlement, if_pos hs]
      exact .inl ⟨_, rfl⟩
    · simp only [Store.insertSettlement, if_neg hs]
      exact .inr rfl

inductive Conclusion (hash : String) (signature : Option String) (σ : Surroundings) (t : Trace) : Outcome Acceptance → Prop
  | halted {h : Halt} {t' : Trace} (inquired : t.Asks t') : Conclusion hash signature σ t ⟨.error h, t'⟩
  | known {s : Settlement} {t' : Trace} (found : t.store.settlements[hash]? = some s) (looked : t.Looks t') :
      Conclusion hash signature σ t ⟨.ok ⟨s.signature, s.depositAddress⟩, t'⟩
  | entered {quote : Quote} {account : Option TrustedAccount} {quoteHash : FixedBytes 32} {x : Terms} {s : Settlement}
      {t' : Trace} (considered : Considered hash signature σ t.store quote account)
      (fresh : t.store.settlements[hash]? = none) (within : ∀ a, account = some a → Within t.store a quote)
      (prepares : Prepares hash quote (account.map fun a => a.address) σ t t' s quoteHash x) (inquired : t.Asks t') :
      Conclusion hash signature σ t ⟨.ok ⟨s.signature, s.depositAddress⟩, entering quote s t'⟩

lemma commit_concludes {hash : String} {signature : Option String} {quote : Quote} {account : Option TrustedAccount}
    {σ : Surroundings} {t t' : Trace} (looked : t.Looks t')
    (considered : Considered hash signature σ t.store quote account) (fresh : t.store.settlements[hash]? = none) :
    Conclusion hash signature σ t ((commit hash quote account).resume σ t') := by
  rw [commit_eq]
  rcases (weigh_looks quote account).bind_cases (fun _ => prepare quote.requiredLiquidity hash quote
    (account.map fun a => a.address) >>= enter quote) σ t' with ⟨h, t₁, weighed, halted⟩ | ⟨u, t₁, weighed, hw, resumed⟩
  · rw [halted]
    exact .halted (trans_of _ looked weighed).asks
  have looked := trans_of _ looked weighed
  have within := within_of_resume_weigh_eq_ok hw
  rw [looked.store_eq] at within
  rw [resumed]
  rcases (prepare_inquires quote.requiredLiquidity hash quote (account.map fun a => a.address)).bind_cases (enter quote) σ t₁
    with ⟨h, t₂, inquired, halted⟩ | ⟨s, t₂, inquired, hp, resumed⟩
  · rw [halted]
    exact .halted (trans_of _ looked.asks inquired)
  have inquired := trans_of _ looked.asks inquired
  rw [resumed]
  rcases resume_enter_cases quote s σ t₂ with ⟨h, failed⟩ | entered
  · rw [failed]
    exact .halted (trans_of _ inquired (inquires_noting rfl))
  · rw [entered]
    obtain ⟨quoteHash, x, prepares⟩ := prepares_of_resume_prepare_eq_ok hp
    exact .entered considered fresh within (prepares.of_looks looked) inquired

lemma accept_concludes (hash : String) (signature : Option String) (σ : Surroundings) (t : Trace) :
    Conclusion hash signature σ t ((accept hash signature).resume σ t) := by
  rw [accept_eq]
  rcases (consider_looks hash signature).bind_cases (fun c => match c.2 with
    | some s => pure ⟨s.signature, s.depositAddress⟩
    | none => commit hash c.1.1 c.1.2) σ t with ⟨h, t', looked, halted⟩ | ⟨⟨⟨quote, account⟩, found⟩, t', looked, hc, resumed⟩
  · rw [halted]
    exact .halted looked.asks
  obtain ⟨considered, hf⟩ := considered_of_resume_consider_eq_ok hc
  rw [resumed]
  cases found with
  | some s => exact .known hf looked
  | none => exact commit_concludes looked considered hf

structure Commits (hash : String) (σ : Surroundings) (t t' : Trace) (quote : Quote) (s : Settlement) : Prop where
  prepared : Prepared hash quote s.owner σ.settings.provider (t'.replies σ) t.store s
  fresh : t.store.settlements[hash]? = none
  quoted : t.store.quotes[hash]? = some quote
  within : ∀ owner, s.owner = some owner → ∃ account : TrustedAccount,
    account.address = owner ∧ Known t.store account ∧ Within t.store account quote
  calls : t.Calls (fun c => c.isPassive) t'
  stored : t'.store = t.store.setSettlement s

lemma Commits.lookup {hash : String} {σ : Surroundings} {t t' : Trace} {quote : Quote} {s : Settlement}
    (h : Commits hash σ t t' quote s) : t'.store.settlements[hash]? = some s := by
  rw [h.stored, ← h.prepared.quoteHash, Store.lookup_setSettlement_self]

inductive Ending (hash : String) (σ : Surroundings) (t : Trace) : Trace → Prop
  | idle {t' : Trace} (inquired : t.Asks t') : Ending hash σ t t'
  | committed {t' : Trace} (quote : Quote) (s : Settlement) (commits : Commits hash σ t t' quote s) : Ending hash σ t t'

lemma Ending.alike {hash : String} {σ : Surroundings} {t t' : Trace} (h : Ending hash σ t t') :
    t.store.Alike t'.store := by
  cases h with
  | idle inquired => exact inquired.alike
  | committed quote s commits =>
    rw [commits.stored]
    exact t.store.alike_setSettlement s

lemma Prepares.prepared {hash : String} {quote : Quote} {owner : Option Address} {σ : Surroundings} {t t' : Trace}
    {s : Settlement} {quoteHash : FixedBytes 32} {x : Terms} (h : Prepares hash quote owner σ t t' s quoteHash x) :
    Prepared hash quote owner σ.settings.provider (t'.replies σ) t.store s where
  quoteHash := by rw [h.drafted]; rfl
  state := by rw [h.drafted]; rfl
  owner := by rw [h.drafted]; rfl
  priced := ⟨x.gasPrice, by simp [h.replies, Terms.replies], h.priced⟩
  covered := ⟨x.networkBalance, x.contractBalance, by simp [h.replies, Terms.replies], by simp [h.replies, Terms.replies],
    h.covered⟩

lemma accept_ends (hash : String) (signature : Option String) (σ : Surroundings) (t : Trace) :
    Ending hash σ t ((accept hash signature).resume σ t).trace := by
  have concluded := accept_concludes hash signature σ t
  generalize (accept hash signature).resume σ t = o at concluded
  cases concluded with
  | halted inquired => exact .idle inquired
  | known found looked => exact .idle looked.asks
  | @entered quote account quoteHash x s t' considered fresh within prepares inquired =>
    have prepared := prepares.prepared
    have replies : (entering quote s t').replies σ = t'.replies σ := replies_noting_access (.insertSettlement s.quoteHash)
    have owner := prepared.owner
    rw [← owner, ← replies] at prepared
    refine .committed quote s ⟨prepared, fresh, considered.quoted, fun a ha => ?_, ?_, ?_⟩
    · rw [owner, Option.map_eq_some_iff] at ha
      obtain ⟨account, hb, rfl⟩ := ha
      exact ⟨account, rfl, considered.vouched.known account hb, within account hb⟩
    · have entry : t'.Calls (fun c => c.isPassive) (entering quote s t') := ⟨[_], rfl, by simp [Call.isPassive]⟩
      exact trans_of _ inquired.calls entry
    · rw [entering, inquired.store_eq]

end Acceptance

end Flyover
