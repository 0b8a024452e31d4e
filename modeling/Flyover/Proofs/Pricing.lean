import Flyover.Proofs.HexText
import Flyover.Proofs.Recommendations
import Flyover.Proofs.Thresholds

/-! A quote is priced exactly, and it is stored as a whole or not at all. -/

namespace Flyover

namespace Quoting

open Run Trace

structure Names (text : String) (a : Address) : Prop where
  written : ∃ cs, text.toList = '0' :: 'x' :: cs ∧ Hex.Digits 40 cs
  read : Address.ofText? text = some a

lemma names_of_parse_eq_ok {text : String} {a : Address} (h : Address.parse text = .ok a) : Names text a :=
  ⟨Address.digits_of_parse_eq_ok h, Address.parse_eq_ok_iff.mp h⟩

lemma checkAmount_eq_ok_iff {s : Settings} {amount : Wei} :
    s.checkAmount amount = .ok () ↔ s.minValue ≤ amount ∧ amount ≤ s.maxValue := by
  rw [Settings.checkAmount]
  split
  · rename_i outside
    simp only [Wei.lt_iff, Wei.le_iff, reduceCtorEq, false_iff] at outside ⊢
    omega
  · rename_i within
    simp only [Wei.lt_iff, Wei.le_iff, true_iff] at within ⊢
    omega

/-- What the gas for the call and for the product fee, the amounts, and the rest of the quote `q` come to; all of it is in
natural numbers. -/
structure Exact (r : QuoteRequest) (σ : Surroundings) (x : Terms) (percentage : UInt64) (q : Quote) : Prop where
  quote : q = { x.quote r σ.settings with confirmations := q.confirmations }
  lower : σ.settings.minValue ≤ q.value
  upper : q.value ≤ σ.settings.maxValue
  destination : Names r.destination q.destination
  user : Names r.userAddress q.userAddress
  scriptHash : Bitcoin.isScriptHash q.federationAddress σ.settings.network
  gasLimit : q.gasLimit.toNat = x.callGas.toNat + x.productGas.toNat
  narrow : x.callGas.toNat + x.productGas.toNat < 2 ^ 32
  free : percentage = 0 → x.productGas = 0
  gasFee : q.gasFee.toNat = q.gasLimit.toNat * x.gasPrice.toNat
  productFee : q.productFee.toNat = q.value.toNat * percentage.toNat / 100
  callFee : q.callFee.toNat = σ.settings.fixedFee.toNat +
    q.value.toNat * (σ.settings.scaledFeePercentage σ.settings.feeScale).toNat / σ.settings.feeScale.toNat
  confirmations : (∃ threshold, ConfirmationTable.Decides σ.settings.confirmations.toList q.value threshold q.confirmations) ∨
    σ.settings.confirmations.toList = [] ∧ q.confirmations = 0
  agreedAt : (q.agreedAt.toNat : Int) = σ.now

/-- All that the peers tell: what the user's address, the gas, the federation, the minimum and the hash come to. The fee
collector is only asked about if there is a product fee. -/
def told (r : QuoteRequest) (σ : Surroundings) (x : Terms) (percentage : UInt64) (minimum : Wei) (p : PricedQuote) :
    List Reply :=
  [⟨.validateBitcoinAddress r.userBitcoinAddress, .ok ()⟩, ⟨.estimateGas p.quote.destination r.value r.data, .ok x.callGas⟩,
      ⟨.gasPrice, .ok x.gasPrice⟩, ⟨.productFeePercentage, .ok percentage⟩] ++
    (if percentage = 0 then [] else
      [⟨.estimateGas σ.settings.feeCollector p.quote.productFee .empty, .ok x.productGas⟩]) ++
    [⟨.federationAddress, .ok p.quote.federationAddress⟩, ⟨.minimumDeposit, .ok minimum⟩, ⟨.hashQuote p.quote, .ok p.hash⟩]

structure Priced (r : QuoteRequest) (σ : Surroundings) (s : Store) (t : Trace) (p : PricedQuote) (x : Terms)
    (percentage : UInt64) (minimum demanded : Wei) : Prop where
  exact : Exact r σ x percentage p.quote
  pricing : p.pricing = ⟨x.gasPrice, σ.settings.feePercentage, σ.settings.fixedFee⟩
  total : p.quote.total = .ok demanded
  sum : demanded.toNat = p.quote.value.toNat + p.quote.callFee.toNat + p.quote.productFee.toNat + p.quote.gasFee.toNat
  reached : minimum ≤ demanded
  replies : t.replies σ = told r σ x percentage minimum p
  store : t.store = { s with
    quotes := s.quotes.insert p.hash p.quote
    pricing := s.pricing.insert p.hash p.pricing }
  events : t.events = []

lemma Levies.exact {collector : Address} {value fee : Wei} {percentage gas : UInt64} {l : List Reply}
    (h : Levies collector value percentage fee gas l) :
    fee.toNat = value.toNat * percentage.toNat / 100 ∧ (percentage = 0 → gas = 0) ∧
      l = ⟨.productFeePercentage, .ok percentage⟩ ::
        if percentage = 0 then [] else [⟨.estimateGas collector fee .empty, .ok gas⟩] := by
  cases h with
  | nothing => simp
  | share charged part => exact ⟨part, fun free => absurd free charged, by rw [if_neg charged]⟩

section

variable {r : QuoteRequest} {σ : Surroundings} {t t' : Trace} {p : PricedQuote} {x : Terms} {l : List Reply} {demanded : Wei}

lemma Gathers.exact (gathers : Gathers r σ x l) :
    ∃ percentage, Exact r σ x percentage (x.quote r σ.settings) ∧
      l = ⟨.productFeePercentage, .ok percentage⟩ ::
        if percentage = 0 then [] else [⟨.estimateGas σ.settings.feeCollector x.productFee .empty, .ok x.productGas⟩] := by
  obtain ⟨percentage, levies⟩ := gathers.levies
  obtain ⟨part, free, asked⟩ := levies.exact
  obtain ⟨lower, upper⟩ := checkAmount_eq_ok_iff.mp gathers.inRange
  have narrow := x.gasLimit.toNat_lt
  rw [gathers.gasLimit] at narrow
  refine ⟨percentage, ⟨rfl, lower, upper, names_of_parse_eq_ok gathers.destination, names_of_parse_eq_ok gathers.user,
    gathers.scriptHash, gathers.gasLimit, narrow, free, ?_, part, ?_, σ.settings.confirmations.forValue_decides r.value,
    gathers.agreedAt⟩, asked⟩
  · show x.gasFee.toNat = x.gasLimit.toNat * _
    rw [gathers.gasFee, gathers.gasLimit]
  · show x.callFee.toNat = _
    rw [gathers.callFee, Nat.add_comm]
    rfl

lemma Drafts.priced {s : Store} (drafts : Drafts r σ (start s) t' p x l demanded) (inquired : (start s).Asks t') :
    ∃ percentage minimum, Priced r σ s (putting p t') p x percentage minimum demanded := by
  obtain ⟨percentage, exact, asked⟩ := drafts.gathers.exact
  obtain ⟨minimum, reached, replies⟩ := drafts.replies
  have quote := drafts.quote
  refine ⟨percentage, minimum, quote ▸ exact, drafts.pricing, drafts.total, Quote.total_eq_ok_iff.mp drafts.total, reached,
    ?_, ?_, ?_⟩
  · have noted : (putting p t').replies σ = t'.replies σ := replies_noting_access _
    rw [noted, replies, asked, told, quote]
    simp [Terms.replies, Terms.quote]
  · rw [putting, inquired.store_eq]
    rfl
  · exact inquired.events_eq

end

/-- A failure leaves everything as it is, and a success prices the request. -/
structure PricesExactly (r : QuoteRequest) (σ : Surroundings) (s : Store) (o : Outcome PricedQuote) : Prop where
  failed (h : Halt) (result : o.result = .error h) : o.trace.Spares s
  priced (p : PricedQuote) (result : o.result = .ok p) :
    ∃ x percentage minimum total, Priced r σ s o.trace p x percentage minimum total

end Quoting

open Quoting Run Trace in
theorem getQuote_prices_exactly (r : QuoteRequest) (σ : Surroundings) (s : Store) :
    PricesExactly r σ s ((getQuote r).exec σ s) := by
  have concluded := price_concludes r σ (start s)
  generalize ho : (price r).resume σ (start s) = o at concluded
  rw [getQuote, exec]
  cases concluded with
  | halted inquired =>
    obtain ⟨h, resumed, -⟩ := resume_mapError_of_error ho
    rw [resumed]
    refine ⟨fun _ _ => inquired.spares, ?_⟩
    rintro _ ⟨⟩
  | @priced p x l demanded t' drafts inquired =>
    rw [resume_mapError_of_ok ho]
    constructor
    case failed => rintro _ ⟨⟩
    case priced =>
      rintro _ ⟨⟩
      obtain ⟨percentage, minimum, priced⟩ := drafts.priced inquired
      exact ⟨x, percentage, minimum, demanded, priced⟩

namespace Sample

lemma recommended_value_decides :
    ConfirmationTable.Decides settings.confirmations.toList recommendation.value (.ofUInt64 1000) 3 := by
  have listed : settings.confirmations.toList = [(.ofUInt64 100, 1), (.ofUInt64 1000, 3)] := by decide
  rw [listed]
  exact ⟨⟨[(.ofUInt64 100, 1)], [], rfl, nofun⟩, .inl ⟨by decide, by decide⟩⟩

end Sample

open Quoting in
theorem sample_quote_priced : ∃ p, ((getQuote Sample.recommendedRequest).exec Sample.chargingSurroundings .empty).result = .ok p ∧
    ∃ x percentage minimum total, Priced Sample.recommendedRequest Sample.chargingSurroundings .empty
      ((getQuote Sample.recommendedRequest).exec Sample.chargingSurroundings .empty).trace p x percentage minimum total ∧
        total.toNat = 900 + 9 + 90 + 42000 ∧ p.quote.confirmations = 3 := by
  obtain ⟨p, quoted, demanded⟩ := Sample.quoted_of_recommendation
  obtain ⟨x, percentage, minimum, total, priced⟩ :=
    (getQuote_prices_exactly Sample.recommendedRequest Sample.chargingSurroundings .empty).priced p quoted
  have same : total = Sample.recommendedTotal := Except.ok.inj (priced.total.symm.trans demanded)
  have value : p.quote.value = Sample.recommendation.value := by
    rw [priced.exact.quote]
    rfl
  have confirmations : p.quote.confirmations = 3 := by
    rcases priced.exact.confirmations with ⟨threshold, decides⟩ | ⟨empty, -⟩
    · rw [value] at decides
      exact decides.unique Sample.recommended_value_decides
    · exact absurd (empty ▸ Sample.recommended_value_decides.counts.mem) List.not_mem_nil
  exact ⟨p, quoted, x, percentage, minimum, total, priced, by rw [same]; rfl, confirmations⟩

end Flyover
