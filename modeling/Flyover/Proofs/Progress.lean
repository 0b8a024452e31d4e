import Flyover.Proofs.Endings.Acceptance
import Flyover.Proofs.Endings.Observation
import Flyover.Proofs.Endings.Payout
import Flyover.Proofs.Endings.Registration
import Flyover.Proofs.HexText
import Flyover.Proofs.Run.Progress

/-! Acceptances, payouts and registrations that find all that they need succeed. -/

namespace Flyover

open Run Trace

lemma Liquidity.require_passes {amount : Wei} {σ : Surroundings} {t T : Trace} (served : T.Served σ)
    (locked : t.store.locked < Wei.bound)
    (covered : t.replies σ ⊆ T.replies σ → ∀ x y : Wei, ⟨.balance σ.settings.provider, .ok x⟩ ∈ T.replies σ →
      ⟨.contractBalance σ.settings.provider, .ok y⟩ ∈ T.replies σ → x.toNat + y.toNat < Wei.bound ∧
        amount.toNat ≤ x.toNat + y.toNat - t.store.locked) :
    Passes T (require amount) σ t := by
  have passes : Passes T available σ t := by
    refine .bind .settings fun settings t₁ hs => ?_
    obtain ⟨rfl, rfl⟩ := resume_settings_eq_ok_iff.mp hs
    refine .bind (.ask served _) fun x t₂ hx => ?_
    refine .bind (.ask served _) fun y t₃ hy => ?_
    have replies := replies_of_resume_ask hy
    rw [replies_of_resume_ask hx] at replies
    obtain ⟨-, rfl⟩ := resume_ask_eq_ok_iff.mp hx
    obtain ⟨-, rfl⟩ := resume_ask_eq_ok_iff.mp hy
    refine .bind (.access served _ _) fun settlements t₄ hl => ?_
    obtain ⟨-, rfl, rfl⟩ := resume_access_eq_ok_iff.mp hl
    refine .bind (.lift fun _ => ⟨⟨_, locked⟩, locked_eq_ok_iff.mpr (Store.lockedSum_settlementsIn _).symm⟩) fun sum t₅ hsum => ?_
    obtain ⟨-, rfl⟩ := resume_lift_eq_ok_iff.mp hsum
    refine .bind (.lift fun same => ?_) fun held t₆ _ => .pure _
    have told : T.replies σ = t.replies σ ++ [⟨.balance σ.settings.provider, .ok x⟩] ++
        [⟨.contractBalance σ.settings.provider, .ok y⟩] := by
      rw [← same, replies_noting_access]
      exact replies
    obtain ⟨fits, -⟩ := covered (by simp [told]) x y (by simp [told]) (by simp [told])
    exact ⟨⟨_, fits⟩, Wei.add_eq_ok_iff.mpr rfl⟩
  refine .bind passes fun free t₁ hf => ?_
  obtain ⟨x, y, left, replies⟩ := resume_available_eq_ok hf
  refine .ite (fun short => ?_) fun _ => .pure ()
  rintro h ⟨⟩
  obtain ⟨-, enough⟩ := covered (by simp [replies]) x y (by simp [replies]) (by simp [replies])
  rw [Wei.lt_iff, left] at short
  exact absurd enough (Nat.not_le_of_lt short)

lemma settlementIn_passes {state : Settlement.State} {hash : String} {u : Settlement} {σ : Surroundings} {t T : Trace}
    (served : T.Served σ) (found : t.store.settlements[hash]? = some u) (waiting : u.state = state) :
    Passes T (settlementIn state hash) σ t := by
  refine .bind (.access served _ _) fun stored t₁ h₁ => ?_
  obtain ⟨-, rfl, rfl⟩ := resume_access_eq_ok_iff.mp h₁
  refine .bind (.require found) fun u' t₂ h₂ => ?_
  obtain ⟨same, -⟩ := resume_require_eq_ok_iff.mp h₂
  cases found.symm.trans same
  exact .bind (.check fun _ => decide_eq_true waiting) fun _ t₃ _ => .pure _

lemma record_succeeds {q : Question} {a : q.Answer} {u : Settlement} {e : Event} {σ : Surroundings} {s : Store} {t : Trace}
    (inquired : (start s).Asks t) (answered : (σ.peers t.calls).answer q = .ok a) (stored : u.quoteHash ∈ s.settlements)
    (served : ((record u e none).resume σ (t.noting (.question q))).trace.Served σ) :
    ∃ T, (record u e none).resume σ (t.noting (.question q)) = ⟨.ok u, T⟩ ∧ ⟨q, .ok a⟩ ∈ T.replies σ ∧
      T.Settles s u.quoteHash u e := by
  have kept : Call.IsAnswered _ _ := served.of_calls (record_writes σ u _ e none).calls
  obtain ⟨T, resumed, replies, settles⟩ := resume_record_of_kept e none (inquired.noting (.question q)) kept stored
  refine ⟨T, resumed, ?_, settles⟩
  rw [replies, replies_noting_question, answered]
  simp

namespace Acceptance

structure Funded (quote : Quote) (σ : Surroundings) (s : Store) (T : Trace) : Prop where
  served : T.Served σ
  free : σ.held .liquidity = false
  inTime : σ.now ≤ quote.agreedAt.toNat + quote.timeForDeposit.toNat
  locked : s.locked < Wei.bound
  fits : ∀ price : Wei, ⟨.gasPrice, .ok price⟩ ∈ T.replies σ →
    (quote.gasLimit.toNat + 180000) * price.toNat + quote.value.toNat < Wei.bound
  covered : ∀ price x y : Wei, ⟨.gasPrice, .ok price⟩ ∈ T.replies σ → ⟨.balance σ.settings.provider, .ok x⟩ ∈ T.replies σ →
    ⟨.contractBalance σ.settings.provider, .ok y⟩ ∈ T.replies σ → x.toNat + y.toNat < Wei.bound ∧
      (quote.gasLimit.toNat + 180000) * price.toNat + quote.value.toNat ≤
        x.toNat + y.toNat - s.locked

section

variable {hash : String} {quote : Quote} {quoteHash : FixedBytes 32} {σ : Surroundings} {s : Store} {t T : Trace}

lemma isExpiredAt_eq_false {now : Int} (inTime : now ≤ quote.agreedAt.toNat + quote.timeForDeposit.toNat) :
    quote.isExpiredAt now = false := by
  simpa [Quote.isExpiredAt, Quote.expireTime] using inTime

lemma consider_passes (quoted : t.store.quotes[hash]? = some quote) (funded : Funded quote σ s T) :
    Passes T (consider hash none) σ t := by
  refine .bind (.access funded.served _ _) fun found t₁ hf => ?_
  obtain ⟨-, rfl, rfl⟩ := resume_access_eq_ok_iff.mp hf
  refine .bind (.require quoted) fun q t₂ hq => ?_
  obtain ⟨same, rfl⟩ := resume_require_eq_ok_iff.mp hq
  cases quoted.symm.trans same
  refine .bind .now fun now t₃ hn => ?_
  obtain ⟨rfl, rfl⟩ := resume_now_eq_ok_iff.mp hn
  refine .bind (.check fun _ => by rw [isExpiredAt_eq_false funded.inTime]; rfl) fun _ t₄ _ => ?_
  rw [Option.mapM_none, pure_bind]
  refine .bind (.acquire funded.free) fun _ t₅ _ => ?_
  exact .bind (.access funded.served _ _) fun found t₆ _ => .pure _

lemma depositAddressOf_passes (decoded : Quote.decodeHash hash = .ok quoteHash) (served : T.Served σ) :
    Passes T (depositAddressOf hash quote) σ t := by
  refine .bind (.lift fun _ => ⟨_, decoded⟩) fun _ t₁ _ => ?_
  refine .bind (.ask served _) fun user t₂ _ => ?_
  refine .bind (.ask served _) fun provider t₃ _ => ?_
  refine .bind (.ask served _) fun federation t₄ _ => ?_
  exact .bind .contractAddress fun bridge t₅ _ => .ask served _

lemma prepare_passes (decoded : Quote.decodeHash hash = .ok quoteHash) (funded : Funded quote σ t.store T) :
    Passes T (prepare quote.requiredLiquidity hash quote none) σ t := by
  refine .bind (depositAddressOf_passes decoded funded.served) fun address t₁ ha => ?_
  have h₁ := (depositAddressOf_inquires hash quote).of_resume ha
  refine .bind (.ask funded.served _) fun price t₂ hp => ?_
  have h₂ := trans_of Trace.Asks h₁ ((Keeps.inquire (p := fun c => c.isPassive) rfl).of_resume hp)
  have told : ⟨.gasPrice, .ok price⟩ ∈ t₂.replies σ := by simp [replies_of_resume_ask hp]
  refine .bind (.lift fun same => ?_) fun amount t₃ hl => ?_
  · exact ⟨⟨_, funded.fits price (same ▸ told)⟩, Quote.requiredLiquidity_eq_ok_iff.mpr rfl⟩
  obtain ⟨priced, rfl⟩ := resume_lift_eq_ok_iff.mp hl
  have amount_eq := Quote.requiredLiquidity_eq_ok_iff.mp priced
  refine .bind (.mapError (Liquidity.require_passes funded.served (h₂.store_eq ▸ funded.locked) ?_)) fun _ t₄ _ => ?_
  · intro earlier x y hx hy
    rw [h₂.store_eq, amount_eq]
    exact funded.covered price x y (earlier told) hx hy
  refine .bind .settings fun settings t₅ _ => ?_
  exact .bind (.lift fun _ => ⟨_, signQuoteHash_eq _ decoded⟩) fun signature t₆ _ => .pure _

lemma accept_passes (decoded : Quote.decodeHash hash = .ok quoteHash) (quoted : t.store.quotes[hash]? = some quote)
    (fresh : t.store.settlements[hash]? = none) (funded : Funded quote σ t.store T) :
    Passes T (accept hash none) σ t := by
  rw [accept_eq]
  refine .bind (consider_passes quoted funded) fun c t₁ hc => ?_
  have looked := (consider_looks hash none).of_resume hc
  obtain ⟨considered, found⟩ := considered_of_resume_consider_eq_ok hc
  rcases c with ⟨⟨q, account⟩, settlement⟩
  cases fresh.symm.trans found
  cases quoted.symm.trans considered.quoted
  cases considered.vouched
  dsimp only
  rw [commit_eq, weigh, pure_bind, Option.map_none]
  refine .bind (prepare_passes decoded (looked.store_eq ▸ funded)) fun u t₂ hu => ?_
  obtain ⟨_, _, prepares⟩ := prepares_of_resume_prepare_eq_ok hu
  have inquired := trans_of Trace.Asks looked.asks ((prepare_inquires _ _ _ _).of_resume hu)
  have absent : u.quoteHash ∉ t₂.store.settlements := by
    rw [prepares.prepared.quoteHash, inquired.store_eq]
    exact (t.store.lookup_eq_none_iff hash).mp fresh
  refine .bind (.insertSettlement funded.served absent) fun _ t₃ _ => ?_
  exact .bind (.publish _) fun _ t₄ _ => .pure _

structure Succeeds (hash : String) (quote : Quote) (σ : Surroundings) (s : Store) (T : Trace) (a : Acceptance)
    (u : Settlement) : Prop where
  store : T.store = s.setSettlement u
  events : T.events = [.accepted quote u]
  terms : ∃ liquidity, u = ⟨hash, a.depositAddress, a.signature, liquidity, .waitingForDeposit, none, .none, .none, none⟩
  liquidity : ∃ price : Wei, ⟨.gasPrice, .ok price⟩ ∈ T.replies σ ∧
    u.requiredLiquidity.toNat = (quote.gasLimit.toNat + 180000) * price.toNat + quote.value.toNat
  signed : ∃ bytes, a.signature = Hex.encode bytes

lemma acceptQuote_succeeds (digits : Hex.Digits 64 hash.toList) (quoted : s.quotes[hash]? = some quote)
    (fresh : s.settlements[hash]? = none) (funded : Funded quote σ s ((acceptQuote hash none).exec σ s).trace) :
    ∃ a u, ((acceptQuote hash none).exec σ s).result = .ok a ∧
      Succeeds hash quote σ s ((acceptQuote hash none).exec σ s).trace a u := by
  obtain ⟨quoteHash, decoded⟩ := Quote.decodeHash_of_digits digits
  rw [acceptQuote, exec, trace_mapError] at funded ⊢
  obtain ⟨a, resumed⟩ := (accept_passes (t := .start s) decoded quoted fresh funded).exists_ok rfl
  rw [resume_mapError_of_ok resumed]
  have concluded := accept_concludes hash none σ (.start s)
  generalize ((accept hash none).resume σ (.start s)).trace = T at resumed
  rw [resumed] at concluded
  cases concluded with
  | known found looked => cases fresh.symm.trans found
  | @entered q account quoteHash x u t' considered fresh within prepares inquired =>
    cases quoted.symm.trans considered.quoted
    cases considered.vouched
    have terms : u = ⟨hash, u.depositAddress, u.signature, u.requiredLiquidity, .waitingForDeposit, none, .none, .none,
        none⟩ := by
      have drafted := prepares.drafted
      generalize u.requiredLiquidity = liquidity at drafted ⊢
      rw [drafted]
      rfl
    refine ⟨_, u, rfl, ?_, ?_, ⟨u.requiredLiquidity, terms⟩, ⟨x.gasPrice, ?_,
      Quote.requiredLiquidity_eq_ok_iff.mp prepares.priced⟩, ⟨_, congrArg Settlement.signature prepares.drafted⟩⟩
    · rw [entering, inquired.store_eq]
      rfl
    · show t'.events ++ _ = _
      rw [inquired.events_eq]
      rfl
    · have replies : (entering quote u t').replies σ = t'.replies σ := replies_noting_access _
      simp [replies, prepares.replies, Terms.replies]

end

end Acceptance

lemma resume_updateSettlement_eq_ok_iff {σ : Surroundings} {t t' : Trace} {u : Settlement} {a : Unit} :
    (updateSettlement u).resume σ t = ⟨.ok a, t'⟩ ↔ (σ.peers t.calls).outage (.updateSettlement u.quoteHash) = none ∧
      u.quoteHash ∈ t.store.settlements ∧ t.writing u = t' := by
  rw [updateSettlement, resume_change, Store.updateSettlement]
  cases (σ.peers t.calls).outage (.updateSettlement u.quoteHash) with
  | some e => simp
  | none =>
    by_cases stored : u.quoteHash ∈ t.store.settlements
    · simp [stored, Trace.writing]
    · simp [stored]

lemma Observation.observeDeposit_succeeds {hash : String} {txid : Txid} {σ : Surroundings} {s : Store} {u : Settlement}
    (found : s.settlements[hash]? = some u) (key : u.quoteHash = hash) (state : u.state = .waitingForDeposit)
    (served : ((observeDeposit hash txid).exec σ s).trace.Served σ) :
    ∃ T, (observeDeposit hash txid).exec σ s = ⟨.ok (), T⟩ ∧ T.store = s.setSettlement (u.observed txid) ∧ T.events = [] := by
  have move : u.moveTo .waitingForDepositConfirmations = .ok { u with state := .waitingForDepositConfirmations } := by
    simp [Settlement.moveTo, state, Settlement.State.canMove]
  have stored : u.quoteHash ∈ s.settlements := key ▸ Store.mem_settlements_of_lookup found
  have passes {T : Trace} (served : T.Served σ) : Passes T (observeDeposit hash txid) σ (.start s) := by
    refine .bind (.access served _ _) fun found' t₁ h₁ => ?_
    obtain ⟨-, rfl, rfl⟩ := resume_access_eq_ok_iff.mp h₁
    refine .bind (.require found) fun u' t₂ h₂ => ?_
    obtain ⟨same, rfl⟩ := resume_require_eq_ok_iff.mp h₂
    cases found.symm.trans same
    rw [move, liftM_ok, pure_bind]
    exact .updateSettlement served stored
  obtain ⟨_, resumed⟩ := (passes served).exists_ok rfl
  generalize ((observeDeposit hash txid).exec σ s).trace = T at resumed
  refine ⟨T, resumed, ?_⟩
  simp only [observeDeposit, findSettlement, resume_bind_eq_ok_iff, resume_access_eq_ok_iff, resume_require_eq_ok_iff,
    resume_lift_eq_ok_iff, resume_updateSettlement_eq_ok_iff] at resumed
  obtain ⟨_, _, ⟨-, rfl, rfl⟩, u', _, ⟨same, rfl⟩, moved, _, ⟨moves, rfl⟩, -, -, rfl⟩ := resumed
  cases found.symm.trans same
  cases move.symm.trans moves
  exact ⟨rfl, rfl⟩

namespace Payout

structure Deposited (quote : Quote) (address : String) (txid : Txid) (σ : Surroundings) (T : Trace) : Prop where
  served : T.Served σ
  free : σ.held .wallet = false
  inTime : σ.now ≤ quote.agreedAt.toNat + quote.timeForDeposit.toNat
  confirmed : ∀ deposit, ⟨.deposit txid, .ok deposit⟩ ∈ T.replies σ →
    quote.confirmations.toNat ≤ deposit.confirmations.toNat
  paid : ∀ deposit, ⟨.deposit txid, .ok deposit⟩ ∈ T.replies σ →
    quote.value.toNat + quote.callFee.toNat + quote.productFee.toNat + quote.gasFee.toNat ≤
      ((deposit.outputs.getD address []).map Wei.toNat).sum
  fits : ∀ deposit, ⟨.deposit txid, .ok deposit⟩ ∈ T.replies σ →
    ((deposit.outputs.getD address []).map Wei.toNat).sum < Wei.bound
  funds : ∀ x y : Wei, ⟨.contractBalance σ.settings.provider, .ok x⟩ ∈ T.replies σ →
    ⟨.balance σ.settings.provider, .ok y⟩ ∈ T.replies σ → quote.value.toNat - x.toNat ≤ y.toNat

section

variable {given : Settlement} {quote : Quote} {total : Wei} {txid : Txid} {σ : Surroundings} {s : Store} {t T : Trace}

lemma examine_passes (state : given.state = .waitingForDepositConfirmations) (seen : given.deposit = some txid)
    (quoted : t.store.quotes[given.quoteHash]? = some quote) (demanded : quote.total = .ok total)
    (deposited : Deposited quote given.depositAddress txid σ T) : Passes T (examine given) σ t := by
  refine .bind (.check fun _ => decide_eq_true state) fun _ t₁ h₁ => ?_
  obtain ⟨-, rfl⟩ := resume_check_eq_ok_iff.mp h₁
  refine .bind (.require seen) fun txid' t₂ h₂ => ?_
  obtain ⟨same, rfl⟩ := resume_require_eq_ok_iff.mp h₂
  cases seen.symm.trans same
  refine .bind (.access deposited.served _ _) fun found t₃ h₃ => ?_
  obtain ⟨-, rfl, rfl⟩ := resume_access_eq_ok_iff.mp h₃
  refine .bind (.require quoted) fun q t₄ h₄ => ?_
  obtain ⟨same, rfl⟩ := resume_require_eq_ok_iff.mp h₄
  cases quoted.symm.trans same
  refine .bind .now fun now t₅ h₅ => ?_
  obtain ⟨rfl, rfl⟩ := resume_now_eq_ok_iff.mp h₅
  refine .bind (.check fun _ => by rw [Acceptance.isExpiredAt_eq_false deposited.inTime]; rfl) fun _ t₆ _ => ?_
  refine .bind (.ask deposited.served _) fun deposit t₇ h₇ => ?_
  have told : ⟨.deposit txid, .ok deposit⟩ ∈ t₇.replies σ := by simp [replies_of_resume_ask h₇]
  refine .bind (.check fun same => ?_) fun _ t₈ h₈ => ?_
  · have confirmed := deposited.confirmed deposit (same ▸ told)
    rwa [decide_eq_true_eq, UInt64.le_iff_toNat_le, UInt16.toNat_toUInt64]
  obtain ⟨-, rfl⟩ := resume_check_eq_ok_iff.mp h₈
  refine .bind (.lift fun _ => ⟨total, demanded⟩) fun _ t₉ h₉ => ?_
  obtain ⟨-, rfl⟩ := resume_lift_eq_ok_iff.mp h₉
  refine .bind (.lift fun same => ?_) fun sent _ _ => .pure _
  exact ⟨⟨_, deposited.fits deposit (same ▸ told)⟩, Deposit.amountTo_eq_ok_iff.mpr rfl⟩

lemma amountToSend_passes (deposited : Deposited quote given.depositAddress txid σ T) :
    Passes T (amountToSend quote) σ t := by
  refine .bind .settings fun settings t₁ h₁ => ?_
  obtain ⟨rfl, rfl⟩ := resume_settings_eq_ok_iff.mp h₁
  refine .bind (.ask deposited.served _) fun x t₂ h₂ => .ite (fun _ => .pure _) fun _ => ?_
  refine .bind (.ask deposited.served _) fun y t₃ h₃ => .ite (fun short => ?_) fun _ => .pure _
  have replies := replies_of_resume_ask h₃
  rw [replies_of_resume_ask h₂] at replies
  rintro h ⟨⟩
  have funds := deposited.funds x y (by simp [replies]) (by simp [replies])
  rw [Wei.lt_iff, Wei.toNat_monus] at short
  exact absurd funds (Nat.not_le_of_lt short)

lemma allot_passes (found : t.store.settlements[given.quoteHash]? = some given)
    (state : given.state = .waitingForDepositConfirmations)
    (deposited : Deposited quote given.depositAddress txid σ T) : Passes T (allot given.quoteHash quote) σ t := by
  refine .bind (.acquire deposited.free) fun _ t₁ h₁ => ?_
  obtain ⟨-, rfl⟩ := resume_acquire_eq_ok_iff.mp h₁
  refine .bind (settlementIn_passes deposited.served found state) fun stored t₂ _ => ?_
  exact .bind (amountToSend_passes deposited) fun amount t₃ _ => .pure _

lemma resume_pay_of_deposited (found : s.settlements[given.quoteHash]? = some given)
    (state : given.state = .waitingForDepositConfirmations) (seen : given.deposit = some txid)
    (quoted : s.quotes[given.quoteHash]? = some quote) (demanded : quote.total = .ok total)
    (deposited : Deposited quote given.depositAddress txid σ ((pay given).resume σ (.start s)).trace) :
    ∃ amount t, (start s).Asks t ∧ (pay given).resume σ (.start s) = (order quote given amount).resume σ t := by
  generalize hT : ((pay given).resume σ (.start s)).trace = T at deposited
  have resumed := hT
  rw [pay_eq, checkDeposit_eq, bind_assoc] at resumed
  obtain ⟨f, t₁, hf, rest⟩ := (examine_passes (t := .start s) state seen quoted demanded deposited).bind_ok resumed
  obtain ⟨txid', deposit, weighs, rfl⟩ := resume_examine_eq_ok_iff.mp hf
  cases seen.symm.trans weighs.1.seen
  cases quoted.symm.trans weighs.1.quoted
  have enough : ¬ f.sent < f.required := by
    intro short
    obtain ⟨h, t₂, refusal, writes⟩ := refuse_ends state f.quote (.insufficientAmount f.sent f.required) σ
      (examined given txid (.start s))
    rw [rest, if_pos short, bind_assoc, resume_bind_of_error refusal] at resumed
    obtain rfl : t₂ = T := resumed
    have paid := deposited.paid deposit (by rw [writes.replies, weighs.1.replies_examined]; simp)
    rw [Wei.lt_iff, Deposit.amountTo_eq_ok_iff.mp weighs.2.2, Quote.total_eq_ok_iff.mp weighs.2.1] at short
    omega
  rw [rest, if_neg enough, pure_bind] at resumed
  obtain ⟨⟨stored, amount⟩, t₂, ha, -⟩ := (allot_passes found state deposited).bind_ok resumed
  obtain ⟨l, allotted⟩ := allotted_of_resume_allot_eq_ok ha
  obtain rfl : given = stored := Option.some.inj (found.symm.trans allotted.found)
  exact ⟨amount, t₂, trans_of _ (inquires_examined given txid _).asks allotted.inquired, resume_pay_of_weighs weighs enough ha⟩

lemma order_succeeds {amount : Wei} (found : s.settlements[given.quoteHash]? = some given)
    (state : given.state = .waitingForDepositConfirmations) (inquired : (start s).Asks t)
    (served : ((order quote given amount).resume σ t).trace.Served σ) :
    ∃ T receipt, (order quote given amount).resume σ t = ⟨.ok (settled given (.ok receipt)), T⟩ ∧
      ⟨.callForUser amount (gasLimit quote) quote, .ok receipt⟩ ∈ T.replies σ ∧
        T.Settles s given.quoteHash (settled given (.ok receipt)) (.calledForUser quote (settled given (.ok receipt)) none) := by
  obtain ⟨receipt, answered⟩ := served.of_calls (calls_order amount σ t state)
  rw [resume_order amount σ t state, answered, outcomeOf] at served ⊢
  have stored : (settled given (.ok receipt)).quoteHash ∈ s.settlements := Store.mem_settlements_of_lookup found
  obtain ⟨T, resumed, called, settles⟩ := record_succeeds inquired answered stored served
  exact ⟨T, receipt, resumed, called, settles⟩

lemma callForUser_succeeds (found : s.settlements[given.quoteHash]? = some given)
    (state : given.state = .waitingForDepositConfirmations) (seen : given.deposit = some txid)
    (quoted : s.quotes[given.quoteHash]? = some quote) (demanded : quote.total = .ok total)
    (deposited : Deposited quote given.depositAddress txid σ ((callForUser given).exec σ s).trace) :
    ∃ T amount gas receipt, (callForUser given).exec σ s = ⟨.ok (settled given (.ok receipt)), T⟩ ∧
      ⟨.callForUser amount gas quote, .ok receipt⟩ ∈ T.replies σ ∧
        T.Settles s given.quoteHash (settled given (.ok receipt)) (.calledForUser quote (settled given (.ok receipt)) none) := by
  rw [callForUser, exec, trace_mapError] at deposited
  obtain ⟨amount, t, inquired, reached⟩ := resume_pay_of_deposited found state seen quoted demanded deposited
  rw [reached] at deposited
  obtain ⟨T, receipt, resumed, called, settles⟩ := order_succeeds found state inquired deposited.served
  exact ⟨T, amount, gasLimit quote, receipt, resume_mapError_of_ok (reached.trans resumed), called, settles⟩

end

end Payout

namespace Registration

structure Matured (txid : Txid) (σ : Surroundings) (T : Trace) : Prop where
  served : T.Served σ
  free : σ.held .wallet = false
  confirmed : ∀ deposit required, ⟨.deposit txid, .ok deposit⟩ ∈ T.replies σ →
    ⟨.requiredConfirmations, .ok required⟩ ∈ T.replies σ → required ≤ deposit.confirmations

section

variable {given : Settlement} {quote : Quote} {txid : Txid} {signature : Bytes} {σ : Surroundings} {s : Store}
  {t T : Trace}

lemma prove_passes (state : given.state = .callForUserSucceeded) (seen : given.deposit = some txid)
    (signed : given.signature = Hex.encode signature) (quoted : t.store.quotes[given.quoteHash]? = some quote)
    (matured : Matured txid σ T) : Passes T (prove given) σ t := by
  refine .bind (.check fun _ => decide_eq_true state) fun _ t₁ h₁ => ?_
  obtain ⟨-, rfl⟩ := resume_check_eq_ok_iff.mp h₁
  refine .bind (.require seen) fun txid' t₂ h₂ => ?_
  obtain ⟨same, rfl⟩ := resume_require_eq_ok_iff.mp h₂
  cases seen.symm.trans same
  refine .bind (.access matured.served _ _) fun found t₃ h₃ => ?_
  obtain ⟨-, rfl, rfl⟩ := resume_access_eq_ok_iff.mp h₃
  refine .bind (.require quoted) fun q t₄ _ => ?_
  refine .bind (.ask matured.served _) fun deposit t₅ h₅ => ?_
  refine .bind (.ask matured.served _) fun required t₆ h₆ => ?_
  have replies := replies_of_resume_ask h₆
  rw [replies_of_resume_ask h₅] at replies
  refine .bind (.check fun same => ?_) fun _ t₇ _ => ?_
  · exact decide_eq_true (matured.confirmed deposit required (by simp [← same, replies]) (by simp [← same, replies]))
  refine .bind (.lift fun _ => ⟨signature, ?_⟩) fun signature t₈ _ => ?_
  · rw [signed, Hex.decode_encode]
    rfl
  refine .bind (.ask matured.served _) fun transaction t₉ _ => ?_
  refine .bind (.ask matured.served _) fun merkleTree t₁₀ _ => ?_
  exact .bind (.ask matured.served _) fun height t₁₁ _ => .pure _

lemma ready_passes (found : t.store.settlements[given.quoteHash]? = some given)
    (state : given.state = .callForUserSucceeded) (seen : given.deposit = some txid)
    (signed : given.signature = Hex.encode signature) (quoted : t.store.quotes[given.quoteHash]? = some quote)
    (matured : Matured txid σ T) : Passes T (ready given) σ t := by
  refine .bind (prove_passes state seen signed quoted matured) fun proved t₁ h₁ => ?_
  rw [← ((prove_inquires given).of_resume h₁).store_eq] at found
  refine .bind (.acquire matured.free) fun _ t₂ h₂ => ?_
  obtain ⟨-, rfl⟩ := resume_acquire_eq_ok_iff.mp h₂
  exact .bind (settlementIn_passes matured.served found state) fun stored t₃ _ => .pure _

lemma calls_submit {proof : DepositProof} {answer : Except Error Receipt} (state : given.state = .callForUserSucceeded)
    (answered : (σ.peers t.calls).answer (.registerPegin proof quote) = answer) (decided : isLagging answer = false) :
    ((submit quote proof given).resume σ t).trace.calls = t.calls ++
      [.question (.registerPegin proof quote), .access (.updateSettlement given.quoteHash)] := by
  rw [resume_submit_of_decided state answered decided, outcomeOf, (record_writes σ _ _ _ _).calls, quoteHash_settled,
    calls_noting, List.append_assoc]
  rfl

lemma submit_succeeds {proof : DepositProof} (found : s.settlements[given.quoteHash]? = some given)
    (state : given.state = .callForUserSucceeded) (inquired : (start s).Asks t)
    (served : ((submit quote proof given).resume σ t).trace.Served σ) :
    ∃ T receipt, (submit quote proof given).resume σ t = ⟨.ok (settled given (.ok receipt)), T⟩ ∧
      ⟨.registerPegin proof quote, .ok receipt⟩ ∈ T.replies σ ∧
        T.Settles s given.quoteHash (settled given (.ok receipt)) (.registeredPegin (settled given (.ok receipt)) none) := by
  obtain ⟨receipt, answered⟩ : ∃ receipt, (σ.peers t.calls).answer (.registerPegin proof quote) = .ok receipt := by
    cases lagging : isLagging ((σ.peers t.calls).answer (.registerPegin proof quote)) with
    | true =>
      obtain ⟨e, answered, waits⟩ := exists_of_isLagging lagging
      rw [resume_submit_of_isWaitingForBridge answered waits] at served
      exact served.of_noting
    | false => exact served.of_calls (calls_submit state rfl lagging)
  rw [resume_submit_of_decided state answered rfl, outcomeOf] at served ⊢
  have stored : (settled given (.ok receipt)).quoteHash ∈ s.settlements := Store.mem_settlements_of_lookup found
  obtain ⟨T, resumed, registered, settles⟩ := record_succeeds inquired answered stored served
  exact ⟨T, receipt, resumed, registered, settles⟩

lemma registerPegin_succeeds (found : s.settlements[given.quoteHash]? = some given)
    (state : given.state = .callForUserSucceeded) (seen : given.deposit = some txid)
    (signed : given.signature = Hex.encode signature) (quoted : s.quotes[given.quoteHash]? = some quote)
    (matured : Matured txid σ ((registerPegin given).exec σ s).trace) :
    ∃ T proof receipt, (registerPegin given).exec σ s = ⟨.ok (settled given (.ok receipt)), T⟩ ∧
      ⟨.registerPegin proof quote, .ok receipt⟩ ∈ T.replies σ ∧
        T.Settles s given.quoteHash (settled given (.ok receipt)) (.registeredPegin (settled given (.ok receipt)) none) := by
  rw [registerPegin, exec, trace_mapError] at matured
  rw [register_eq] at matured
  obtain ⟨⟨⟨q, proof⟩, stored⟩, t, hr, rest⟩ :=
    (ready_passes (t := .start s) found state seen signed quoted matured).bind_ok rfl
  obtain ⟨l, ready⟩ := ready_of_resume_ready_eq_ok hr
  obtain rfl : given = stored := Option.some.inj (found.symm.trans ready.found)
  obtain rfl : quote = q := by
    obtain ⟨txid, deposit, required, -, -, same, -, -⟩ := ready.proven
    exact Option.some.inj (quoted.symm.trans same)
  have served := matured.served
  rw [rest] at served
  obtain ⟨T, receipt, resumed, registered, settles⟩ := submit_succeeds found state ready.inquired served
  rw [← rest, ← register_eq] at resumed
  exact ⟨T, proof, receipt, resume_mapError_of_ok resumed, registered, settles⟩

end

end Registration

end Flyover
