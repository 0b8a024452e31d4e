import Flyover.Proofs.WeiSum
import Flyover.Proofs.Endings.Update
import Flyover.Quoting

/-! The ways in which quoting ends. -/

namespace Flyover.Quoting

open Run Trace

lemma checkRequest_inquires (r : QuoteRequest) : (checkRequest r).Keeps Trace.Asks := by
  refine .bind (.mapError (.inquire rfl)) fun _ => ?_
  refine .bind (.mapError (.lift _)) fun user => ?_
  refine .bind (.mapError (.lift _)) fun destination => ?_
  refine .bind .settings fun settings => ?_
  exact .bind (.lift _) fun _ => .pure _

lemma productFee_inquires (value : Wei) : (productFee value).Keeps Trace.Asks := by
  refine .bind (.inquire rfl) fun percentage => .ite (.pure _) ?_
  refine .bind (.lift _) fun fee => ?_
  refine .bind .settings fun settings => ?_
  exact .bind (.inquire rfl) fun gas => .pure _

lemma federationAddress_inquires : federationAddress.Keeps Trace.Asks := by
  refine .bind (.inquire rfl) fun address => ?_
  exact .bind .settings fun settings => .ite (.pure _) (.fail _)

lemma requireMinimumDeposit_inquires (value : Wei) :
    (requireMinimumDeposit value).Keeps Trace.Asks :=
  .bind (.inquire rfl) fun _ => .ite (.fail _) (.pure _)

section

variable {σ : Surroundings} {t t' : Trace}

lemma resume_checkRequest_eq_ok {r : QuoteRequest} {a : Address × Address}
    (h : (checkRequest r).resume σ t = ⟨.ok a, t'⟩) :
    Address.parse r.destination = .ok a.1 ∧ Address.parse r.userAddress = .ok a.2 ∧
      σ.settings.checkAmount r.value = .ok () ∧
      t'.replies σ = t.replies σ ++ [⟨.validateBitcoinAddress r.userBitcoinAddress, .ok ()⟩] := by
  simp only [checkRequest, resume_bind_eq_ok_iff, resume_mapError_eq_ok_iff, resume_lift_eq_ok_iff,
    resume_settings_eq_ok_iff, resume_pure_eq_ok_iff] at h
  obtain ⟨⟨⟩, _, asked, user, _, ⟨hu, rfl⟩, destination, _, ⟨hd, rfl⟩, _, _, ⟨rfl, rfl⟩, ⟨⟩, _, ⟨inRange, rfl⟩, rfl, rfl⟩ := h
  exact ⟨hd, hu, inRange, replies_of_resume_ask asked⟩

inductive Levies (collector : Address) (value : Wei) : UInt64 → Wei → UInt64 → List Reply → Prop
  | nothing : Levies collector value 0 0 0 [⟨.productFeePercentage, .ok 0⟩]
  | share {percentage gas : UInt64} {fee : Wei} (charged : percentage ≠ 0)
      (part : fee.toNat = value.toNat * percentage.toNat / 100) :
      Levies collector value percentage fee gas
        [⟨.productFeePercentage, .ok percentage⟩, ⟨.estimateGas collector fee .empty, .ok gas⟩]

lemma levies_of_resume_productFee_eq_ok {value : Wei} {a : Wei × UInt64}
    (h : (productFee value).resume σ t = ⟨.ok a, t'⟩) :
    ∃ percentage l, Levies σ.settings.feeCollector value percentage a.1 a.2 l ∧ t'.replies σ = t.replies σ ++ l := by
  obtain ⟨percentage, t₁, hp, h⟩ := resume_bind_eq_ok_iff.mp h
  have replies := replies_of_resume_ask hp
  split at h
  · rename_i free
    subst free
    obtain ⟨rfl, rfl⟩ := resume_pure_eq_ok_iff.mp h
    exact ⟨0, _, .nothing, replies⟩
  · rename_i charged
    simp only [resume_bind_eq_ok_iff, resume_lift_eq_ok_iff, resume_settings_eq_ok_iff, resume_pure_eq_ok_iff] at h
    obtain ⟨fee, _, ⟨hf, rfl⟩, _, _, ⟨rfl, rfl⟩, gas, _, hg, rfl, rfl⟩ := h
    refine ⟨percentage, _, .share charged (Wei.mulDiv_eq_ok_iff.mp hf).2.2, ?_⟩
    rw [replies_of_resume_ask hg, replies, List.append_assoc]
    rfl

lemma resume_federationAddress_eq_ok {address : String} (h : federationAddress.resume σ t = ⟨.ok address, t'⟩) :
    Bitcoin.isScriptHash address σ.settings.network ∧
      t'.replies σ = t.replies σ ++ [⟨.federationAddress, .ok address⟩] := by
  simp only [federationAddress, resume_bind_eq_ok_iff, resume_settings_eq_ok_iff] at h
  obtain ⟨told, _, asked, _, _, ⟨rfl, rfl⟩, h⟩ := h
  split at h
  · rename_i scriptHash
    obtain ⟨rfl, rfl⟩ := resume_pure_eq_ok_iff.mp h
    exact ⟨scriptHash, replies_of_resume_ask asked⟩
  · cases h

lemma resume_requireMinimumDeposit_eq_ok {value : Wei} {u : Unit}
    (h : (requireMinimumDeposit value).resume σ t = ⟨.ok u, t'⟩) :
    ∃ minimum : Wei, minimum ≤ value ∧ t'.replies σ = t.replies σ ++ [⟨.minimumDeposit, .ok minimum⟩] := by
  obtain ⟨minimum, t₁, asked, h⟩ := resume_bind_eq_ok_iff.mp h
  split at h
  · cases h
  · rename_i reached
    obtain ⟨-, rfl⟩ := resume_pure_eq_ok_iff.mp h
    exact ⟨minimum, Nat.le_of_not_lt reached, replies_of_resume_ask asked⟩

end

lemma addGas_eq_ok_iff {a b c : UInt64} : addGas a b = .ok c ↔ c.toNat = a.toNat + b.toNat := by
  rw [addGas]
  split
  · rename_i h
    rw [Except.ok.injEq, ← UInt64.toNat_inj, UInt64.toNat_add, Nat.mod_eq_of_lt h, eq_comm]
  · rename_i h
    have hc := c.toNat_lt
    rw [UInt64.size] at h
    simp only [reduceCtorEq, false_iff]
    omega

lemma gasLimit_eq_ok_iff {gas : UInt64} {limit : UInt32} : gasLimit gas = .ok limit ↔ limit.toNat = gas.toNat := by
  rw [gasLimit]
  split
  · rename_i h
    rw [Except.ok.injEq, ← UInt32.toNat_inj, UInt64.toNat_toUInt32, Nat.mod_eq_of_lt h, eq_comm]
  · rename_i h
    have hl := limit.toNat_lt
    rw [UInt32.size] at h
    simp only [reduceCtorEq, false_iff]
    omega

lemma callFee_eq_ok {s : Settings} {value fee : Wei} (h : callFee s value = .ok fee) :
    fee.toNat = value.toNat * (s.scaledFeePercentage s.feeScale).toNat / s.feeScale.toNat + s.fixedFee.toNat := by
  obtain ⟨part, hp, hf⟩ := bind_eq_ok_iff.mp h
  rw [Wei.add_eq_ok_iff.mp hf, (Wei.mulDiv_eq_ok_iff.mp hp).2.2, Wei.toNat_ofUInt64]

lemma timestamp_eq_ok {now : Int} {n : UInt32} (h : timestamp now = .ok n) : (n.toNat : Int) = now := by
  rw [timestamp] at h
  split at h
  · rename_i range
    obtain ⟨rfl⟩ := h
    obtain ⟨lower, upper⟩ := range
    rw [UInt32.size] at upper
    rw [UInt32.toNat_ofNat']
    omega
  · cases h

structure Terms where
  destination : Address
  user : Address
  callGas : UInt64
  gasPrice : Wei
  productFee : Wei
  productGas : UInt64
  federationAddress : String
  gasLimit : UInt32
  gasFee : Wei
  callFee : Wei
  agreedAt : UInt32
  bridgeContract : Address
  nonce : Int64

def Terms.quote (x : Terms) (r : QuoteRequest) (s : Settings) : Quote where
  federationAddress := x.federationAddress
  bridgeContract := x.bridgeContract
  providerAddress := s.provider
  userBitcoinAddress := r.userBitcoinAddress
  userAddress := x.user
  providerBitcoinAddress := s.bitcoinAddress
  callFee := x.callFee
  penaltyFee := s.penaltyFee
  destination := x.destination
  data := r.data
  gasLimit := x.gasLimit
  nonce := x.nonce
  value := r.value
  agreedAt := x.agreedAt
  timeForDeposit := s.timeForDeposit
  callTime := s.callTime
  confirmations := s.confirmations.forValue r.value
  callOnRegister := false
  gasFee := x.gasFee
  productFee := x.productFee
  chainId := s.chainId

def gather (r : QuoteRequest) (settings : Settings) : Run Terms := do
  let (destination, user) ← checkRequest r
  let callGas ← ask (.estimateGas destination r.value r.data)
  let gasPrice ← ask .gasPrice
  let (productFee, productGas) ← productFee r.value
  let federation ← federationAddress
  let totalGas ← addGas callGas productGas
  let gasLimit ← gasLimit totalGas
  let gasFee ← (Wei.ofUInt64 totalGas).mul gasPrice
  let callFee ← callFee settings r.value
  let agreedAt ← timestamp (← now)
  return {
    destination, user, callGas, gasPrice, productFee, productGas, federationAddress := federation, gasLimit, gasFee, callFee
    agreedAt, bridgeContract := ← contractAddress, nonce := ← nonce }

def draft (r : QuoteRequest) : Run PricedQuote := do
  let settings ← settings
  let x ← gather r settings
  requireMinimumDeposit (← (x.quote r settings).total)
  let hash ← ask (.hashQuote (x.quote r settings))
  return ⟨hash, x.quote r settings, ⟨x.gasPrice, settings.feePercentage, settings.fixedFee⟩⟩

lemma price_eq (r : QuoteRequest) : price r = draft r >>= fun p => putQuote p >>= fun _ => pure p := by
  simp only [price, draft, gather, bind_assoc, pure_bind]
  rfl

lemma gather_inquires (r : QuoteRequest) (settings : Settings) : (gather r settings).Keeps Trace.Asks := by
  refine .bind (checkRequest_inquires r) fun addresses => ?_
  refine .bind (.inquire rfl) fun callGas => ?_
  refine .bind (.inquire rfl) fun gasPrice => ?_
  refine .bind (productFee_inquires r.value) fun product => ?_
  refine .bind federationAddress_inquires fun federation => ?_
  refine .bind (.lift _) fun totalGas => ?_
  refine .bind (.lift _) fun gasLimit => ?_
  refine .bind (.lift _) fun gasFee => ?_
  refine .bind (.lift _) fun callFee => ?_
  refine .bind .now fun now => ?_
  refine .bind (.lift _) fun agreedAt => ?_
  refine .bind (.contractAddress fun _ => inquires_noting rfl) fun bridgeContract => ?_
  exact .bind .nonce fun nonce => .pure _

lemma draft_inquires (r : QuoteRequest) : (draft r).Keeps Trace.Asks := by
  refine .bind .settings fun settings => ?_
  refine .bind (gather_inquires r settings) fun x => ?_
  refine .bind (.lift _) fun total => ?_
  refine .bind (requireMinimumDeposit_inquires total) fun _ => ?_
  exact .bind (.inquire rfl) fun hash => .pure _

def Terms.replies (x : Terms) (r : QuoteRequest) (l : List Reply) : List Reply :=
  [⟨.validateBitcoinAddress r.userBitcoinAddress, .ok ()⟩, ⟨.estimateGas x.destination r.value r.data, .ok x.callGas⟩,
    ⟨.gasPrice, .ok x.gasPrice⟩] ++ l ++ [⟨.federationAddress, .ok x.federationAddress⟩]

structure Gathers (r : QuoteRequest) (σ : Surroundings) (x : Terms) (l : List Reply) : Prop where
  destination : Address.parse r.destination = .ok x.destination
  user : Address.parse r.userAddress = .ok x.user
  inRange : σ.settings.checkAmount r.value = .ok ()
  scriptHash : Bitcoin.isScriptHash x.federationAddress σ.settings.network
  gasLimit : x.gasLimit.toNat = x.callGas.toNat + x.productGas.toNat
  gasFee : x.gasFee.toNat = (x.callGas.toNat + x.productGas.toNat) * x.gasPrice.toNat
  callFee : x.callFee.toNat = r.value.toNat * (σ.settings.scaledFeePercentage σ.settings.feeScale).toNat /
    σ.settings.feeScale.toNat + σ.settings.fixedFee.toNat
  agreedAt : (x.agreedAt.toNat : Int) = σ.now
  nonce : x.nonce = σ.nonce
  levies : ∃ percentage, Levies σ.settings.feeCollector r.value percentage x.productFee x.productGas l

section

variable {r : QuoteRequest} {σ : Surroundings} {t t' : Trace}

lemma gathers_of_resume_gather_eq_ok {x : Terms} (h : (gather r σ.settings).resume σ t = ⟨.ok x, t'⟩) :
    ∃ l, Gathers r σ x l ∧ t'.replies σ = t.replies σ ++ x.replies r l := by
  simp only [gather, resume_bind_eq_ok_iff, resume_lift_eq_ok_iff, resume_now_eq_ok_iff, resume_contractAddress_eq_ok_iff,
    resume_nonce_eq_ok_iff, resume_pure_eq_ok_iff] at h
  obtain ⟨addresses, t₁, hr, callGas, t₂, hc, gasPrice, t₃, hg, product, t₄, hp, federation, t₅, hf, gas, _, ⟨ha, rfl⟩,
    limit, _, ⟨hl, rfl⟩, gasFee, _, ⟨hgf, rfl⟩, fee, _, ⟨hcf, rfl⟩, _, _, ⟨rfl, rfl⟩, agreedAt, _, ⟨hn, rfl⟩,
    _, _, ⟨rfl, rfl⟩, _, _, ⟨rfl, rfl⟩, rfl, rfl⟩ := h
  obtain ⟨hd, hu, inRange, requested⟩ := resume_checkRequest_eq_ok hr
  obtain ⟨percentage, l, levies, levied⟩ := levies_of_resume_productFee_eq_ok hp
  obtain ⟨scriptHash, federated⟩ := resume_federationAddress_eq_ok hf
  have total := addGas_eq_ok_iff.mp ha
  refine ⟨l, ⟨hd, hu, inRange, scriptHash, ?_, ?_, callFee_eq_ok hcf, timestamp_eq_ok hn, rfl, percentage, levies⟩, ?_⟩
  · rw [← total]
    exact gasLimit_eq_ok_iff.mp hl
  · rw [← total]
    exact Wei.mul_eq_ok_iff.mp hgf
  · rw [replies_noting_contractAddress, federated, levied, replies_of_resume_ask hg, replies_of_resume_ask hc, requested]
    simp only [Terms.replies, List.append_assoc, List.cons_append, List.nil_append]

structure Drafts (r : QuoteRequest) (σ : Surroundings) (t t' : Trace) (p : PricedQuote) (x : Terms) (l : List Reply)
    (demanded : Wei) : Prop where
  gathers : Gathers r σ x l
  quote : p.quote = x.quote r σ.settings
  pricing : p.pricing = ⟨x.gasPrice, σ.settings.feePercentage, σ.settings.fixedFee⟩
  total : p.quote.total = .ok demanded
  replies : ∃ minimum : Wei, minimum ≤ demanded ∧ t'.replies σ = t.replies σ ++ x.replies r l ++
    [⟨.minimumDeposit, .ok minimum⟩, ⟨.hashQuote p.quote, .ok p.hash⟩]

lemma drafts_of_resume_draft_eq_ok {p : PricedQuote} (h : (draft r).resume σ t = ⟨.ok p, t'⟩) :
    ∃ x l demanded, Drafts r σ t t' p x l demanded := by
  simp only [draft, resume_bind_eq_ok_iff, resume_settings_eq_ok_iff, resume_lift_eq_ok_iff, resume_pure_eq_ok_iff] at h
  obtain ⟨_, _, ⟨rfl, rfl⟩, x, t₁, hx, total, _, ⟨ht, rfl⟩, _, t₂, hm, hash, t₃, hh, rfl, rfl⟩ := h
  obtain ⟨l, gathers, gathered⟩ := gathers_of_resume_gather_eq_ok hx
  obtain ⟨minimum, reached, weighed⟩ := resume_requireMinimumDeposit_eq_ok hm
  refine ⟨x, l, total, gathers, rfl, rfl, ht, minimum, reached, ?_⟩
  rw [replies_of_resume_ask hh, weighed, gathered, List.append_assoc]
  rfl

end

def putting (p : PricedQuote) (t : Trace) : Trace :=
  { t.noting (.access (.putQuote p.hash)) with store := t.store.putQuote p }

inductive Conclusion (r : QuoteRequest) (σ : Surroundings) (t : Trace) : Outcome PricedQuote → Prop
  | halted {h : Halt} {t' : Trace} (inquired : t.Asks t') : Conclusion r σ t ⟨.error h, t'⟩
  | priced {p : PricedQuote} {x : Terms} {l : List Reply} {demanded : Wei} {t' : Trace}
      (drafts : Drafts r σ t t' p x l demanded) (inquired : t.Asks t') : Conclusion r σ t ⟨.ok p, putting p t'⟩

lemma price_concludes (r : QuoteRequest) (σ : Surroundings) (t : Trace) : Conclusion r σ t ((price r).resume σ t) := by
  rw [price_eq]
  rcases (draft_inquires r).bind_cases (fun p => putQuote p >>= fun _ => pure p) σ t with
    ⟨h, t', inquired, halted⟩ | ⟨p, t', inquired, hp, resumed⟩
  · rw [halted]
    exact .halted inquired
  obtain ⟨x, l, demanded, drafts⟩ := drafts_of_resume_draft_eq_ok hp
  rw [resumed, resume_bind, putQuote, resume_change]
  cases (σ.peers t'.calls).outage (.putQuote p.hash) with
  | some e => exact .halted (trans_of _ inquired (inquires_noting rfl))
  | none => exact .priced drafts inquired

lemma drafts_of_getQuote_eq_ok {r : QuoteRequest} {σ : Surroundings} {s : Store} {p : PricedQuote}
    (h : ((getQuote r).exec σ s).result = .ok p) : ∃ t' x l demanded, Drafts r σ (.start s) t' p x l demanded := by
  obtain ⟨t', resumed⟩ : ∃ t', (price r).resume σ (.start s) = ⟨.ok p, t'⟩ :=
    ⟨_, resume_mapError_eq_ok_iff.mp (resume_eq_of_result_eq_ok h)⟩
  have concluded := price_concludes r σ (.start s)
  rw [resumed] at concluded
  cases concluded with
  | priced drafts inquired => exact ⟨_, _, _, _, drafts⟩

structure Spares (t t' : Trace) : Prop where
  settlements : t'.store.settlements = t.store.settlements
  accounts : t'.store.accounts = t.store.accounts

lemma price_spares (r : QuoteRequest) (σ : Surroundings) (t : Trace) : Spares t ((price r).resume σ t).trace := by
  have concluded := price_concludes r σ t
  generalize (price r).resume σ t = o at concluded
  cases concluded with
  | halted inquired => exact ⟨by rw [inquired.store_eq], by rw [inquired.store_eq]⟩
  | priced drafts inquired =>
    constructor
    · rw [putting, Store.putQuote, inquired.store_eq]
    · rw [putting, Store.putQuote, inquired.store_eq]

end Flyover.Quoting
