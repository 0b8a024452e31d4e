import Flyover.Proofs.Payments

/-! A call for a user is ordered only for a confirmed deposit that covers the quote, and what is sent along is there. -/

namespace Flyover

namespace Payout

open Run Trace

def Covers (deposit : Deposit) (address : String) (quote : Quote) : Prop :=
  quote.confirmations.toNat ≤ deposit.confirmations.toNat ∧
    quote.value.toNat + quote.callFee.toNat + quote.productFee.toNat + quote.gasFee.toNat ≤
      ((deposit.outputs.getD address []).map Wei.toNat).sum

/-- What an order to call for a user rests on: the settlement as it is given and as it is stored, the quote, and the replies
`l` that were there before the order. -/
structure Backed (given : Settlement) (σ : Surroundings) (s : Store) (l : List Reply) (value : Wei) (gas : UInt64)
    (quote : Quote) : Prop where
  waiting : given.state = .waitingForDepositConfirmations
  waits : ∃ stored, s.settlements[given.quoteHash]? = some stored ∧ stored.state = .waitingForDepositConfirmations
  quoted : s.quotes[given.quoteHash]? = some quote
  unexpired : σ.now ≤ quote.agreedAt.toNat + quote.timeForDeposit.toNat
  deposited : ∃ txid deposit, given.deposit = some txid ∧ Told l (.deposit txid) deposit ∧
    Covers deposit given.depositAddress quote
  limited : gas.toNat = quote.gasLimit.toNat + 180000
  priced : ∀ price amount, quote.requiredLiquidity price = .ok amount →
    amount.toNat = gas.toNat * price.toNat + quote.value.toNat
  funded : ∃ balance, Told l (.contractBalance σ.settings.provider) balance ∧
    (value.toNat : Int) = max 0 (quote.value.toNat - balance.toNat) ∧
    quote.value.toNat ≤ balance.toNat + value.toNat ∧
    (0 < value.toNat → ∃ held, Told l (.balance σ.settings.provider) held ∧ value.toNat ≤ held.toNat)

lemma Weighs.covers {given : Settlement} {σ : Surroundings} {t : Trace} {txid : Txid} {deposit : Deposit} {f : Findings}
    (h : Weighs given σ t txid deposit f) (enough : ¬ f.sent < f.required) :
    Covers deposit given.depositAddress f.quote := by
  obtain ⟨confirmed, total, amount⟩ := h
  refine ⟨by simpa [UInt64.le_iff_toNat_le] using confirmed.confirmed, ?_⟩
  rw [← Quote.total_eq_ok_iff.mp total, ← Deposit.amountTo_eq_ok_iff.mp amount]
  exact Nat.le_of_not_lt enough

lemma Funds.funded {provider : Address} {quote : Quote} {amount : Wei} {l : List Reply}
    (h : Funds provider quote amount l) (txid : Txid) (deposit : Except Error Deposit) :
    ∃ balance, Told (⟨.deposit txid, deposit⟩ :: l) (.contractBalance provider) balance ∧
      (amount.toNat : Int) = max 0 (quote.value.toNat - balance.toNat) ∧
      quote.value.toNat ≤ balance.toNat + amount.toNat ∧
      (0 < amount.toNat → ∃ held, Told (⟨.deposit txid, deposit⟩ :: l) (.balance provider) held ∧
        amount.toNat ≤ held.toNat) := by
  cases h with
  | covered balance left nothing =>
    have hl := congrArg Wei.toNat left
    have hn := congrArg Wei.toNat nothing
    rw [Wei.toNat_monus] at hl
    rw [Wei.toNat_zero] at hn
    exact ⟨balance, by simp [Told], by omega, by omega, by omega⟩
  | toppedUp balance held left some holds =>
    have hl := congrArg Wei.toNat left
    rw [Wei.toNat_monus] at hl
    exact ⟨balance, by simp [Told], by omega, by omega, fun _ => ⟨held, by simp [Told], holds⟩⟩

lemma Funds.countP_isPayout {provider : Address} {quote : Quote} {amount : Wei} {l : List Reply}
    (h : Funds provider quote amount l) : l.countP Reply.isPayout = 0 := by
  cases h <;> rfl

lemma backed_of_allotted {given stored : Settlement} {σ : Surroundings} {s : Store} {t : Trace} {txid : Txid}
    {deposit : Deposit} {f : Findings} {amount : Wei} {l : List Reply} (weighs : Weighs given σ (.start s) txid deposit f)
    (enough : ¬ f.sent < f.required)
    (allotted : Allotted given.quoteHash f.quote σ (examined given txid (.start s)) t stored amount l) :
    Backed given σ s (⟨.deposit txid, .ok deposit⟩ :: l) amount (gasLimit f.quote) f.quote where
  waiting := weighs.1.waiting
  waits := ⟨stored, allotted.found, allotted.waiting⟩
  quoted := weighs.1.quoted
  unexpired := by simpa [Quote.isExpiredAt, Quote.expireTime] using weighs.1.unexpired
  deposited := by
    refine ⟨txid, deposit, weighs.1.seen, ?_, weighs.covers enough⟩
    cases allotted.funds <;> simp [Told]
  limited := toNat_gasLimit f.quote
  priced price amount h := by rw [Quote.requiredLiquidity_eq_ok_iff.mp h, toNat_gasLimit]
  funded := allotted.funds.funded txid _

end Payout

open Payout Run Trace in
theorem payout_is_backed (given : Settlement) (σ : Surroundings) (s : Store) (value : Wei) (gas : UInt64) (quote : Quote)
    (ordered : .question (.callForUser value gas quote) ∈ ((callForUser given).exec σ s).trace.calls) :
    (((callForUser given).exec σ s).trace.replies σ).countP Reply.isPayout = 1 ∧
      ∃ before answer, ((callForUser given).exec σ s).trace.replies σ =
        before ++ [⟨.callForUser value gas quote, answer⟩] ∧ Backed given σ s before value gas quote := by
  have concluded := pay_concludes given σ (.start s)
  rw [callForUser, exec, trace_mapError] at *
  generalize (pay given).resume σ (.start s) = o at *
  cases concluded with
  | halted inquired enough => exact absurd (inquired.calls.of_start _ ordered) (by simp [Call.isPassive])
  | refused weighs short refusal writes =>
    rw [writes.calls] at ordered
    simp [examined, Trace.start] at ordered
  | @ordered f txid deposit stored amount l t' weighs enough allotted =>
    have inquired : (Trace.start s).Asks t' :=
      trans_of _ (inquires_examined given txid _).asks allotted.inquired
    rw [calls_order amount σ t' allotted.waiting, List.mem_append] at ordered
    rcases ordered with earlier | now
    · exact absurd (inquired.calls.of_start _ earlier) (by simp [Call.isPassive])
    · simp only [List.mem_cons, List.not_mem_nil, or_false, Call.question.injEq, Question.callForUser.injEq,
        reduceCtorEq] at now
      obtain ⟨rfl, rfl, rfl⟩ := now
      rw [replies_order value σ t' allotted.waiting, allotted.replies, weighs.1.replies_examined, replies_start,
        List.nil_append, List.singleton_append]
      refine ⟨?_, _, _, rfl, backed_of_allotted weighs enough allotted⟩
      rw [List.countP_append, List.countP_cons, allotted.funds.countP_isPayout]
      rfl

namespace Sample

def quote : Quote where
  federationAddress := ""
  bridgeContract := Recommendation.zeroAddress
  providerAddress := Recommendation.zeroAddress
  userBitcoinAddress := ""
  userAddress := Recommendation.zeroAddress
  providerBitcoinAddress := ""
  callFee := .ofUInt64 10
  penaltyFee := 0
  destination := Recommendation.zeroAddress
  data := .empty
  gasLimit := 5000
  nonce := 1
  value := .ofUInt64 1000
  agreedAt := 100
  timeForDeposit := 50
  callTime := 50
  confirmations := 2
  callOnRegister := false
  gasFee := .ofUInt64 20
  productFee := .ofUInt64 5
  chainId := 33

def settlement (state : Settlement.State) : Settlement where
  quoteHash := "aa"
  depositAddress := "deposit"
  signature := "0x0102"
  requiredLiquidity := .ofUInt64 1000
  state
  deposit := some txid
  callForUser := .none
  registerPegin := .none
  owner := none

def storing (state : Settlement.State) : Store :=
  { Store.empty with
    quotes := (∅ : Std.ExtTreeMap String Quote).insert "aa" quote
    settlements := (∅ : Std.ExtTreeMap String Settlement).insert "aa" (settlement state) }

lemma found_settlement (state : Settlement.State) :
    (storing state).settlements[(settlement state).quoteHash]? = some (settlement state) := by
  simp [storing, settlement]

def payers : Peers :=
  { peers with
    answer
      | .deposit _ => .ok ⟨3, ((∅ : Std.ExtTreeMap String (List Wei)).insert "deposit" [.ofUInt64 1000, .ofUInt64 35]).insert
          "other" [.ofUInt64 7]⟩
      | .contractBalance _ => .ok (.ofUInt64 400)
      | .balance _ => .ok (.ofUInt64 600)
      | q => peers.answer q }

def paying : Surroundings := ⟨⟨fun _ => payers, 150, 1⟩, settings, fun _ => false⟩

abbrev payout : Trace :=
  ((callForUser (settlement .waitingForDepositConfirmations)).exec paying
    (storing .waitingForDepositConfirmations)).trace

end Sample

open Payout Sample in
theorem sample_payout_is_backed :
    .question (.callForUser (.ofUInt64 600) 185000 quote) ∈ payout.calls ∧
      (payout.replies paying).countP Reply.isPayout = 1 ∧
      ∃ before answer, payout.replies paying = before ++ [⟨.callForUser (.ofUInt64 600) 185000 quote, answer⟩] ∧
        Backed (settlement .waitingForDepositConfirmations) paying (storing .waitingForDepositConfirmations) before
          (.ofUInt64 600) 185000 quote := by
  have ordered : .question (.callForUser (.ofUInt64 600) 185000 quote) ∈ payout.calls := by decide +kernel
  exact ⟨ordered, payout_is_backed _ _ _ _ _ _ ordered⟩

end Flyover
