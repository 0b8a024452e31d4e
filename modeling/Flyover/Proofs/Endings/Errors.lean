import Flyover.Collateral
import Flyover.Expiry
import Flyover.Proofs.Endings.Locks
import Flyover.Proofs.Endings.Quoting
import Flyover.Proofs.Endings.Recommendation
import Flyover.Proofs.Run.Errors
import Flyover.Report
import Flyover.Status

/-! The errors that use cases fail with before they name themselves in them. -/

namespace Flyover

open Error Run

namespace Wei

lemma fit_plainIn {operation : String} (h : (weiOverflow operation).isPlain) (n : Nat) : PlainIn (fit operation n) := by
  intro e failed
  rw [(fit_eq_error_iff.mp failed).2]
  exact h

lemma add_plainIn (a b : Wei) : PlainIn (a.add b) := fit_plainIn rfl _

lemma mul_plainIn (a b : Wei) : PlainIn (a.mul b) := fit_plainIn rfl _

lemma sum_plainIn (l : List Wei) : PlainIn (Wei.sum l) := .foldlM add_plainIn 0 l

lemma sub_plainIn {a b : Wei} (h : b ≤ a) : PlainIn (a.sub b) := by
  rw [sub, if_pos (le_iff.mp h)]
  exact .ok _

lemma div_only_division (a b : Wei) : Only (fun e => e = weiOverflow "division") (a.div b) := by
  refine .ite (.error rfl) ?_
  intro e failed
  exact (fit_eq_error_iff.mp failed).2

lemma div_plainIn {b : Wei} (h : b ≠ 0) (a : Wei) : PlainIn (a.div b) := by
  obtain ⟨quotient, divided, -⟩ := div_of_ne_zero (a := a) h
  rw [divided]
  exact .ok quotient

lemma mulDiv_plainIn {c : Wei} (h : c ≠ 0) (a b : Wei) : PlainIn (a.mulDiv b c) :=
  .bind (mul_plainIn a b) (div_plainIn h)

end Wei

lemma Settings.checkAmount_plainIn (s : Settings) (amount : Wei) : PlainIn (s.checkAmount amount) :=
  .ite (.error rfl) (.ok _)

lemma Settings.scaledPercentage_plainIn (percentage scale : UInt64) : PlainIn (scaledPercentage percentage scale) :=
  Wei.mulDiv_plainIn (by decide) _ _

lemma Settlement.moveTo_plainIn (s : Settlement) (next : State) : PlainIn (s.moveTo next) := .ite (.ok _) (.error rfl)

lemma Store.insertSettlement_plainIn (t : Settlement) (s : Store) : PlainIn (s.insertSettlement t) :=
  .ite (.error rfl) (.ok _)

lemma Store.updateSettlement_plainIn (t : Settlement) (s : Store) : PlainIn (s.updateSettlement t) :=
  .ite (.ok _) (.error rfl)

lemma Quote.total_plainIn (q : Quote) : PlainIn q.total :=
  .bind (Wei.add_plainIn _ _) fun _ => .bind (Wei.add_plainIn _ _) fun _ => Wei.add_plainIn _ _

lemma Quote.requiredLiquidity_plainIn (q : Quote) (gasPrice : Wei) : PlainIn (q.requiredLiquidity gasPrice) :=
  .bind (Wei.mul_plainIn _ _) fun _ => Wei.add_plainIn _ _

lemma Quote.decodeHash_plainIn (hash : String) : PlainIn (Quote.decodeHash hash) := by
  rw [Quote.decodeHash]
  split
  · exact .error rfl
  · split
    · exact .ok _
    · exact .error rfl

lemma Address.parse_plainIn (s : String) : PlainIn (Address.parse s) := by
  rw [Address.parse]
  split
  · exact .ok _
  · exact .error rfl

lemma Signature.recoverSigner_plainIn (hash : FixedBytes 32) (signature : Bytes) :
    PlainIn (recoverSigner hash signature) := by
  refine .ite (.error rfl) (.bind (.ite (.error rfl) (.ok _)) fun s => ?_)
  split
  · exact .ok _
  · exact .error rfl

lemma Signature.recoverSignerText_plainIn (hash signature : String) : PlainIn (recoverSignerText hash signature) := by
  refine .bind (Quote.decodeHash_plainIn hash) fun h => ?_
  split
  · exact .error rfl
  · exact recoverSigner_plainIn h _

lemma SecretKey.signQuoteHash_plainIn (key : SecretKey) (hash : String) : PlainIn (key.signQuoteHash hash) :=
  .bind (Quote.decodeHash_plainIn hash) fun _ => .ok _

lemma Quoting.addGas_plainIn (a b : UInt64) : PlainIn (addGas a b) := .ite (.ok _) (.error rfl)

lemma Quoting.gasLimit_plainIn (gas : UInt64) : PlainIn (gasLimit gas) := .ite (.ok _) (.error rfl)

lemma Quoting.timestamp_plainIn (now : Int) : PlainIn (timestamp now) := .ite (.ok _) (.error rfl)

lemma Report.ofQuotes_only_leaf (quotes : List Quote) : Only (fun e => e.isLeaf) (ofQuotes quotes) := by
  have leaf {a b : Wei} : Only (fun e => e.isLeaf) (a.add b) := (Wei.add_plainIn a b).mono fun _ => isLeaf_of_isPlain
  have share {a b : Wei} : Only (fun e => e.isLeaf) (a.div b) := (Wei.div_only_division a b).mono fun e division => by
    rw [division]
    rfl
  have add (sum : Wei × Report) (quote : Quote) : Only (fun e => e.isLeaf) (Report.add sum quote) :=
    .bind leaf fun _ => .bind leaf fun _ => .ok _
  refine .bind (.foldlM add _ quotes) fun sum => ?_
  exact .ite (.ok _) (.bind share fun _ => .bind share fun _ => .ok _)

lemma Run.only_errorOf {α : Type} {P : Error → Prop} {answer : Except Error α} (h : Only P answer) :
    ∀ e ∈ errorOf answer, P e := by
  cases answer with
  | ok a => nofun
  | error e =>
    rintro _ ⟨⟩
    exact h e rfl

lemma Payout.settle_plainIn (s : Settlement) (answer : Except Error Receipt) : PlainIn (settle s answer) := by
  cases answer <;> exact .bind (Settlement.moveTo_plainIn _ _) fun _ => .ok _

lemma Payout.error_of_settle_eq_ok {s : Settlement} {answer : Except Error Receipt} {a : Settlement × Option Error}
    (h : settle s answer = .ok a) : a.2 = errorOf answer := by
  cases answer with
  | ok receipt =>
    obtain ⟨_, -, ⟨⟩⟩ := bind_eq_ok_iff.mp h
    rfl
  | error e =>
    obtain ⟨_, -, ⟨⟩⟩ := bind_eq_ok_iff.mp h
    rfl

lemma Registration.error_of_settle_eq_ok {s : Settlement} {answer : Except Error Receipt} {a : Settlement × Option Error}
    (h : settle s answer = .ok a) : a.2 = errorOf answer := by
  cases answer with
  | ok receipt =>
    obtain ⟨_, -, ⟨⟩⟩ := bind_eq_ok_iff.mp h
    rfl
  | error e =>
    by_cases lagging : e.isWaitingForBridge
    · rw [settle_of_isWaitingForBridge s lagging] at h
      cases h
    · simp only [settle, lagging] at h
      obtain ⟨_, -, ⟨⟩⟩ := bind_eq_ok_iff.mp h
      rfl

section

variable {σ : Surroundings}

lemma Wei.mulDiv_feeScale_arises (a b : Wei) : Only (Arises σ) (a.mulDiv b (.ofUInt64 σ.settings.feeScale)) := by
  by_cases unscaled : σ.settings.feeScale = 0
  · refine .bind (mul_plainIn a b).arises fun product => ?_
    refine (div_only_division _ _).mono fun e division => ?_
    rw [division]
    exact .division unscaled
  · exact (mulDiv_plainIn (mt ofUInt64_eq_zero_iff.mp unscaled) a b).arises

lemma Quoting.callFee_arises (value : Wei) : Only (Arises σ) (callFee σ.settings value) :=
  .bind (Wei.mulDiv_feeScale_arises _ _) fun _ => (Wei.add_plainIn _ _).arises

lemma Recommendation.valueOf_arises {budget fixedCosts : Wei} (covered : fixedCosts ≤ budget) (product call : Wei) :
    Only (Arises σ) (valueOf budget fixedCosts (.ofUInt64 σ.settings.feeScale) product call) := by
  refine .bind_of_ok (Wei.add_plainIn _ _).arises fun withProduct hp => ?_
  refine .bind_of_ok (Wei.add_plainIn _ _).arises fun divisor hd => ?_
  refine .bind (Wei.sub_plainIn covered).arises fun rest => ?_
  -- the divisor is no less than the scale, so it is zero only if the scale is
  by_cases null : divisor = 0
  · have unscaled : Wei.ofUInt64 σ.settings.feeScale = 0 := by
      have sum := Wei.add_eq_ok_iff.mp hd
      rw [Wei.add_eq_ok_iff.mp hp, null, Wei.toNat_zero] at sum
      exact Wei.ext_toNat (Nat.eq_zero_of_add_eq_zero_right (Nat.eq_zero_of_add_eq_zero_right sum.symm))
    rw [null, ← unscaled]
    exact Wei.mulDiv_feeScale_arises rest _
  · exact (Wei.mulDiv_plainIn null _ _).arises

lemma Registration.settle_arises (s : Settlement) {answer : Except Error Receipt} (h : Only (Arises σ) answer) :
    Only (Arises σ) (settle s answer) := by
  cases answer with
  | ok receipt => exact .bind (Settlement.moveTo_plainIn _ _).arises fun _ => .ok _
  | error e =>
    by_cases lagging : e.isWaitingForBridge
    · rw [settle_of_isWaitingForBridge s lagging]
      exact .error (h e rfl)
    · simp only [settle, lagging]
      exact .bind (Settlement.moveTo_plainIn _ _).arises fun _ => .ok _

lemma Run.updateSettlement_raises (s : Settlement) : FailsWith σ (Arises σ) (updateSettlement s) :=
  .change _ (Store.updateSettlement_plainIn s)

lemma Run.record_raises (s : Settlement) (e : Event) {error : Option Error} (h : ∀ e ∈ error, Arises σ e) :
    FailsWith σ (Arises σ) (record s e error) := by
  refine .bind (.publish e) fun _ => ?_
  refine .bind_attempt (updateSettlement_raises s) fun written hw => ?_
  cases error with
  | none =>
    cases written with
    | ok _ => exact .pure s
    | error e' => exact .fail (.nonRecoverable (by simpa using hw e' rfl))
  | some e₀ =>
    cases written with
    | ok _ => exact .fail (.nonRecoverable (by simpa using h))
    | error e' => exact .fail (.nonRecoverable (by simpa using ⟨h e₀ rfl, hw e' rfl⟩))

lemma Run.settlementIn_raises (state : Settlement.State) (hash : String) :
    FailsWith σ (Arises σ) (settlementIn state hash) := by
  refine .bind (.look _ _) fun found => ?_
  refine .bind (.require (.plain rfl) _) fun s => ?_
  exact .bind (.check (.plain rfl) _) fun _ => .pure _

lemma Liquidity.require_raises (amount : Wei) : FailsWith σ (Arises σ) (Liquidity.require amount) := by
  refine .bind ?_ fun available => .ite (.fail (.plain rfl)) (.pure _)
  refine .bind .settings fun settings => ?_
  refine .bind (.inquire _) fun networkBalance => ?_
  refine .bind (.inquire _) fun contractBalance => ?_
  refine .bind (.look _ _) fun settlements => ?_
  refine .bind (.compute (Wei.sum_plainIn _)) fun locked => ?_
  exact .bind (.compute (Wei.add_plainIn _ _)) fun held => .pure _

namespace Quoting

lemma requireMinimumDeposit_raises (value : Wei) : FailsWith σ (Arises σ) (requireMinimumDeposit value) :=
  .bind (.inquire _) fun _ => .ite (.fail (.plain rfl)) (.pure _)

lemma checkRequest_raises (r : QuoteRequest) : FailsWith σ (ArisesIn σ .getQuote) (checkRequest r) := by
  -- what is wrong with the request names the use case on the spot, with the argument at fault
  have about (name value : String) (e : Error) (h : Arises σ e) :
      ArisesIn σ .getQuote (inUseCase .getQuote (.single name value) e) :=
    .inr ⟨_, e, rfl, h⟩
  refine .bind (.mapError (.inquire _) (about _ _)) fun _ => ?_
  refine .bind (.mapError (.compute (Address.parse_plainIn _)) (about _ _)) fun user => ?_
  refine .bind (.mapError (.compute (Address.parse_plainIn _)) (about _ _)) fun destination => ?_
  refine .bind .settings fun settings => ?_
  exact .bind (FailsWith.compute (settings.checkAmount_plainIn _)).arisesIn fun _ => .pure _

lemma productFee_raises (value : Wei) : FailsWith σ (Arises σ) (productFee value) := by
  refine .bind (.inquire _) fun percentage => .ite (.pure _) ?_
  refine .bind (.compute (Wei.mulDiv_plainIn (by decide) _ _)) fun fee => ?_
  refine .bind .settings fun settings => ?_
  exact .bind (.inquire _) fun gas => .pure _

lemma federationAddress_raises : FailsWith σ (Arises σ) federationAddress := by
  refine .bind (.inquire _) fun address => ?_
  exact .bind .settings fun settings => .ite (.pure _) (.fail (.plain rfl))

lemma gather_raises (r : QuoteRequest) : FailsWith σ (ArisesIn σ .getQuote) (gather r σ.settings) := by
  refine .bind (checkRequest_raises r) fun addresses => FailsWith.arisesIn ?_
  refine .bind (.inquire _) fun callGas => ?_
  refine .bind (.inquire _) fun gasPrice => ?_
  refine .bind (productFee_raises r.value) fun product => ?_
  refine .bind federationAddress_raises fun federation => ?_
  refine .bind (.compute (addGas_plainIn _ _)) fun totalGas => ?_
  refine .bind (.compute (gasLimit_plainIn _)) fun gasLimit => ?_
  refine .bind (.compute (Wei.mul_plainIn _ _)) fun gasFee => ?_
  refine .bind (.lift (callFee_arises _)) fun callFee => ?_
  refine .bind .now fun now => ?_
  refine .bind (.compute (timestamp_plainIn _)) fun agreedAt => ?_
  refine .bind .contractAddress fun bridgeContract => ?_
  exact .bind .nonce fun nonce => .pure _

lemma price_raises (r : QuoteRequest) : FailsWith σ (ArisesIn σ .getQuote) (price r) := by
  rw [price_eq]
  refine .bind (.bind_settings (.bind (gather_raises r) fun x => ?_)) fun p => ?_
  · refine FailsWith.arisesIn ?_
    refine .bind (.compute (Quote.total_plainIn _)) fun total => ?_
    refine .bind (requireMinimumDeposit_raises total) fun _ => ?_
    exact .bind (.inquire _) fun hash => .pure _
  · exact .bind (FailsWith.change _ fun _ => .ok _).arisesIn fun _ => .pure _

end Quoting

namespace Payout

lemma checkDeposit_raises (given : Settlement) : FailsWith σ (Arises σ) (checkDeposit given) := by
  rw [checkDeposit_eq]
  refine .bind ?_ fun f => .ite (.bind ?_ fun _ => .pure _) (.pure _)
  · refine .bind (.check (.plain rfl) _) fun _ => ?_
    refine .bind (.require (.plain rfl) _) fun txid => ?_
    refine .bind (.look _ _) fun found => ?_
    refine .bind (.require (.plain rfl) _) fun quote => ?_
    refine .bind .now fun now => ?_
    refine .bind (.check (.plain rfl) _) fun _ => ?_
    refine .bind (.inquire _) fun deposit => ?_
    refine .bind (.check (.plain rfl) _) fun _ => ?_
    refine .bind (.compute (Quote.total_plainIn _)) fun required => ?_
    exact .bind (.compute (Wei.sum_plainIn _)) fun sent => .pure _
  · refine .bind (.compute (Settlement.moveTo_plainIn _ _)) fun closed => ?_
    refine .bind (.publish _) fun _ => ?_
    refine .bind_attempt (updateSettlement_raises closed) fun written hw => ?_
    cases written with
    | ok _ => exact .fail (.plain rfl)
    | error e =>
      refine .fail (.nonRecoverable ?_)
      simp only [List.mem_cons, List.not_mem_nil, or_false, forall_eq_or_imp, forall_eq]
      exact ⟨.plain rfl, hw e rfl⟩

lemma pay_raises (given : Settlement) : FailsWith σ (Arises σ) (pay given) := by
  rw [pay_eq_spend]
  refine .bind (checkDeposit_raises given) fun quote => .bind (.acquire _) fun _ => ?_
  refine .bind (settlementIn_raises _ _) fun stored => ?_
  refine .bind (.bind .settings fun settings => .bind (.inquire _) fun balance => ?_) fun amount => ?_
  · refine .ite (.pure _) (.bind (.inquire _) fun held => ?_)
    exact .ite (.bind_fail (.plain rfl) _) (.pure _)
  · refine .bind_attempt (.inquire _) fun answer ha => ?_
    refine .bind_lift (settle_plainIn stored answer).arises fun settled hs => record_raises _ _ ?_
    rw [error_of_settle_eq_ok hs]
    exact only_errorOf ha

end Payout

namespace Registration

lemma register_raises (given : Settlement) : FailsWith σ (Arises σ) (register given) := by
  rw [register_eq_claim]
  refine .bind ?_ fun p => .bind (.acquire _) fun _ => .bind (settlementIn_raises _ _) fun stored => ?_
  · refine .bind (.check (.plain rfl) _) fun _ => ?_
    refine .bind (.require (.plain rfl) _) fun txid => ?_
    refine .bind (.look _ _) fun found => ?_
    refine .bind (.require (.plain rfl) _) fun quote => ?_
    refine .bind (.inquire _) fun deposit => ?_
    refine .bind (.inquire _) fun required => ?_
    refine .bind (.check (.plain rfl) _) fun _ => ?_
    refine .bind (.compute (.mapError fun _ => rfl)) fun signature => ?_
    refine .bind (.inquire _) fun transaction => ?_
    refine .bind (.inquire _) fun merkleTree => ?_
    exact .bind (.inquire _) fun height => .pure _
  · refine .bind_attempt (.inquire _) fun answer ha => ?_
    refine .bind_lift (settle_arises stored ha) fun settled hs => record_raises _ _ ?_
    rw [error_of_settle_eq_ok hs]
    exact only_errorOf ha

end Registration

namespace Recommendation

lemma estimateGasFee_raises (destination : Address) (budget : Wei) (data : CallData) (productFee : Wei) :
    FailsWith σ (Arises σ) (estimateGasFee destination budget data productFee) := by
  rw [estimateGasFee_eq]
  refine .bind (.ite (.pure _) (.bind .settings fun settings => .inquire _)) fun productGas => ?_
  refine .bind (.inquire _) fun callGas => ?_
  refine .bind (.inquire _) fun gasPrice => ?_
  refine .bind (.compute (Quoting.addGas_plainIn _ _)) fun gas => ?_
  exact .compute (Wei.mul_plainIn _ _)

lemma compute_raises (budget : Wei) (destination : String) (data : CallData) :
    FailsWith σ (Arises σ) (compute budget destination data) := by
  refine .bind_settings (.bind (.inquire _) fun percentage => ?_)
  refine .bind (.compute (Settings.scaledPercentage_plainIn _ _)) fun scaledProduct => ?_
  refine .bind (.lift (Wei.mulDiv_feeScale_arises _ _)) fun estimate => ?_
  refine .bind (estimateGasFee_raises _ _ _ _) fun gasFee => ?_
  refine .bind (.compute (Wei.add_plainIn _ _)) fun fixedCosts => ?_
  split
  · exact .bind_fail (.plain rfl) _
  · rename_i covered
    refine .bind (.lift (valueOf_arises (Nat.le_of_not_lt covered) _ _)) fun value => ?_
    refine .bind (.compute (Settings.checkAmount_plainIn _ _)) fun _ => ?_
    refine .bind (.mapError (Liquidity.require_raises value) fun _ _ => .plain rfl) fun _ => ?_
    refine .bind (Quoting.requireMinimumDeposit_raises value) fun _ => ?_
    refine .bind (.lift (Quoting.callFee_arises _)) fun callFee => ?_
    exact .bind (.lift (Wei.mulDiv_feeScale_arises _ _)) fun productFee => .pure _

end Recommendation

namespace Collateral

lemma add_raises (amount : Wei) : FailsWith σ (Arises σ) (add amount) := by
  refine .bind .settings fun settings => ?_
  refine .bind (.inquire _) fun minimum => ?_
  refine .bind (.inquire _) fun current => ?_
  refine .bind (.compute (Wei.add_plainIn _ _)) fun collateral => .ite (.bind_fail (.plain rfl) _) ?_
  exact .bind (.inquire _) fun _ => .pure _

end Collateral

namespace Expiry

lemma close_raises (given : Settlement) : FailsWith σ (Arises σ) (close given) := by
  refine .ite (.pure _) (.bind (.check (.plain rfl) _) fun _ => ?_)
  refine .bind (.look _ _) fun found => ?_
  refine .bind (.require (.plain rfl) _) fun quote => ?_
  refine .bind .now fun now => ?_
  refine .bind (.check (.plain rfl) _) fun _ => ?_
  refine .bind (.compute (Settlement.moveTo_plainIn _ _)) fun closed => ?_
  exact .bind (updateSettlement_raises closed) fun _ => .pure _

lemma sweep_raises :
    FailsWith σ (fun e => ∃ source, e = inUseCase .expireQuote ∅ source ∧ Arises σ source) sweepExpired := by
  have looked {α : Type} (a : Access) (find : Store → α) :
      FailsWith σ (fun e => ∃ source, e = inUseCase .expireQuote ∅ source ∧ Arises σ source)
        (mapError (fun e => e.within .expireQuote) (access a find)) :=
    (FailsWith.look a find).mapError fun e arises => ⟨e, rfl, arises⟩
  refine .bind (looked _ _) fun waiting => .bind (.mapM waiting fun given => ?_) fun hashes => .pure _
  refine .bind (.bind (looked _ _) fun quote => .bind .now fun now => .pure _) fun due => .ite ?_ (.pure _)
  -- what cannot be ended is left aside
  refine .bind (.attempt _) fun ended => ?_
  cases ended <;> exact .pure _

end Expiry

namespace Acceptance

lemma trustedAccount_raises (hash signature : String) : FailsWith σ (Arises σ) (trustedAccount hash signature) := by
  refine .bind (.compute (Signature.recoverSignerText_plainIn _ _)) fun address => ?_
  refine .bind (.look _ _) fun found => ?_
  refine .bind (.require (.plain rfl) _) fun account => ?_
  exact .bind (.check (.plain rfl) _) fun _ => .pure _

lemma consider_raises (hash : String) (signature : Option String) : FailsWith σ (Arises σ) (consider hash signature) := by
  refine .bind (.look _ _) fun found => ?_
  refine .bind (.require (.plain rfl) _) fun quote => ?_
  refine .bind .now fun now => ?_
  refine .bind (.check (.plain rfl) _) fun _ => ?_
  refine .bind (.mapM_option _ (trustedAccount_raises hash)) fun account => ?_
  refine .bind (.acquire _) fun _ => ?_
  exact .bind (.look _ _) fun found => .pure _

lemma weigh_raises (quote : Quote) (account : Option TrustedAccount) : FailsWith σ (Arises σ) (weigh quote account) := by
  cases account with
  | none => exact .pure ()
  | some account =>
    refine .bind (.look _ _) fun settlements => ?_
    refine .bind (.compute (Wei.sum_plainIn _)) fun locked => ?_
    refine .bind (.compute (Wei.add_plainIn _ _)) fun withValue => ?_
    refine .bind (.compute (Wei.add_plainIn _ _)) fun requested => ?_
    exact .ite (.fail (.plain rfl)) (.pure _)

lemma depositAddressOf_raises (hash : String) (quote : Quote) :
    FailsWith σ (Arises σ) (depositAddressOf hash quote) := by
  refine .bind (.compute (Quote.decodeHash_plainIn hash)) fun quoteHash => ?_
  refine .bind (.inquire _) fun userAddress => ?_
  refine .bind (.inquire _) fun providerAddress => ?_
  refine .bind (.inquire _) fun federation => ?_
  exact .bind .contractAddress fun bridgeContract => .inquire _

lemma enter_raises (quote : Quote) (s : Settlement) : FailsWith σ (Arises σ) (enter quote s) :=
  .bind (.change _ (Store.insertSettlement_plainIn s)) fun _ => .bind (.publish _) fun _ => .pure _

lemma prepare_raises {price : Wei → Except Error Wei} (fair : ∀ gasPrice, PlainIn (price gasPrice)) (hash : String)
    (quote : Quote) (owner : Option Address) :
    FailsWith σ (ArisesIn σ .acceptQuote) (prepare price hash quote owner) := by
  refine .bind (depositAddressOf_raises hash quote).arisesIn fun depositAddress => ?_
  refine .bind (FailsWith.inquire _).arisesIn fun gasPrice => ?_
  refine .bind (FailsWith.compute (fair gasPrice)).arisesIn fun required => ?_
  refine .bind (.mapError (Liquidity.require_raises required) fun e arises => .inr ⟨_, e, rfl, arises⟩) fun _ => ?_
  refine FailsWith.arisesIn ?_
  refine .bind .settings fun settings => ?_
  exact .bind (.compute (settings.secretKey.signQuoteHash_plainIn hash)) fun signature => .pure _

lemma accept_raises (hash : String) (signature : Option String) :
    FailsWith σ (ArisesIn σ .acceptQuote) (accept hash signature) := by
  rw [accept_eq]
  refine .bind (consider_raises hash signature).arisesIn fun c => ?_
  cases c.2 with
  | some s => exact .pure _
  | none =>
    have fair := c.1.1.requiredLiquidity_plainIn
    dsimp only
    rw [commit_eq]
    generalize c.1.1.requiredLiquidity = price at fair
    refine .bind (weigh_raises _ _).arisesIn fun _ => ?_
    exact .bind (prepare_raises fair hash _ _) fun s => (enter_raises _ s).arisesIn

end Acceptance

end

section

variable {σ : Surroundings} (bare : σ.AnswersBare)

include bare

lemma Quoting.price_failsWith (r : QuoteRequest) :
    FailsWith σ (fun e => e.Bare ∨ e.TaggedOnce .getQuote fun _ => True) (price r) :=
  (price_raises r).mono fun _ arises => arises.bare_or_taggedOnce bare

lemma Payout.pay_failsWith (given : Settlement) : FailsWith σ Bare (pay given) := (pay_raises given).bare bare

lemma Registration.register_failsWith (given : Settlement) : FailsWith σ Bare (register given) :=
  (register_raises given).bare bare

lemma Recommendation.compute_failsWith (budget : Wei) (destination : String) (data : CallData) :
    FailsWith σ Bare (compute budget destination data) :=
  (compute_raises budget destination data).bare bare

lemma Collateral.add_failsWith (amount : Wei) : FailsWith σ Bare (add amount) := (add_raises amount).bare bare

lemma Expiry.close_failsWith (given : Settlement) : FailsWith σ Bare (close given) := (close_raises given).bare bare

lemma Report.compute_failsWith (start stop : Instant) : FailsWith σ Bare (compute start stop) := by
  refine .bind (.access bare _ _) fun settled => .ite (.pure _) (.bind (.access bare _ _) fun quotes => ?_)
  exact .lift ((ofQuotes_only_leaf _).mono fun _ => bare_of_isLeaf)

end

end Flyover
