import Flyover.Proofs.Endings.Recommendation
import Flyover.Proofs.History.Deed

/-! A recommendation fits its budget, and it agrees with the quote that is made for it. -/

namespace Flyover

open Run Trace

/-! Shares of a value are rounded down. -/

lemma mul_share_div_scale {scale : Nat} (hundreds : 100 ∣ scale) (positive : scale ≠ 0) (value percentage : Nat) :
    value * (percentage * scale / 100) / scale = value * percentage / 100 := by
  obtain ⟨k, rfl⟩ := hundreds
  have hk : 0 < k := Nat.pos_of_ne_zero fun h => positive (by rw [h])
  have share : percentage * (100 * k) / 100 = percentage * k := by
    rw [Nat.mul_left_comm, Nat.mul_div_cancel_left _ (by decide)]
  rw [share, ← Nat.mul_assoc, Nat.mul_div_mul_right _ _ hk]

lemma value_add_shares_le {rest scale product call value : Nat} (positive : scale ≠ 0)
    (h : value = rest * scale / (scale + product + call)) :
    value + value * call / scale + value * product / scale ≤ rest := by
  have exact : value * (scale + product + call) ≤ rest * scale := h ▸ Nat.div_mul_le_self _ _
  have hc := Nat.div_mul_le_self (value * call) scale
  have hp := Nat.div_mul_le_self (value * product) scale
  refine Nat.le_of_mul_le_mul_right ?_ (Nat.pos_of_ne_zero positive)
  rw [Nat.mul_add, Nat.mul_add] at exact
  rw [Nat.add_mul, Nat.add_mul]
  omega

lemma le_quotient_add_of_lt {value cost scale divisor k : Nat} (divides : scale ≤ divisor) (positive : 0 < divisor)
    (short : value * divisor < cost * scale + k * scale) : value ≤ cost * scale / divisor + k := by
  have rounded := Nat.lt_div_mul_add (a := cost * scale) positive
  have units : k * scale ≤ k * divisor := Nat.mul_le_mul_left k divides
  have scaled : value * divisor < (cost * scale / divisor + k + 1) * divisor := by
    rw [Nat.succ_mul, Nat.add_mul]
    omega
  exact Nat.le_of_lt_succ (Nat.lt_of_mul_lt_mul_right scaled)

lemma le_quotient_of_add_shares_le {rest scale product call value quotient : Nat} (positive : scale ≠ 0)
    (h : quotient = rest * scale / (scale + product + call))
    (paid : value + value * call / scale + value * product / scale ≤ rest) :
    value ≤ quotient + 2 ∧ (call = 0 ∨ product = 0 → value ≤ quotient + 1) := by
  have hs : 0 < scale := Nat.pos_of_ne_zero positive
  have divides : scale ≤ scale + product + call := by omega
  have exact : value * (scale + product + call) = value * scale + value * product + value * call := by
    rw [Nat.mul_add, Nat.mul_add]
  have units : value * scale + value * call / scale * scale + value * product / scale * scale ≤ rest * scale := by
    rw [← Nat.add_mul, ← Nat.add_mul]
    exact Nat.mul_le_mul_right scale paid
  have hc := Nat.lt_div_mul_add (a := value * call) hs
  have hp := Nat.lt_div_mul_add (a := value * product) hs
  subst h
  refine ⟨?_, fun single => ?_⟩
  · apply le_quotient_add_of_lt divides (hs.trans_le divides)
    rw [exact]
    omega
  · apply le_quotient_add_of_lt divides (hs.trans_le divides)
    rw [exact]
    -- a share of nothing is not rounded
    rcases single with free | free
    · have none : value * call = 0 := by rw [free, Nat.mul_zero]
      omega
    · have none : value * product = 0 := by rw [free, Nat.mul_zero]
      omega

lemma inverted_value_bounds {scale product call value inverted : Nat} (positive : scale ≠ 0)
    (h : inverted = (value + value * call / scale + value * product / scale) * scale / (scale + product + call)) :
    inverted ≤ value ∧ value ≤ inverted + 2 ∧ (product = 0 → value ≤ inverted + 1) := by
  obtain ⟨near, single⟩ := le_quotient_of_add_shares_le positive h le_rfl
  refine ⟨?_, near, fun free => single (.inr free)⟩
  have hc := Nat.div_mul_le_self (value * call) scale
  have hp := Nat.div_mul_le_self (value * product) scale
  rw [h]
  apply Nat.div_le_of_le_mul
  rw [Nat.mul_comm (scale + product + call), Nat.mul_add, Nat.mul_add, Nat.add_mul, Nat.add_mul]
  omega

/-- A price of gas, a percentage of the product fee, and the gas that calls take by their targets. -/
structure Market where
  gasPrice : Wei
  percentage : UInt64
  gas : Address → UInt64

namespace Market

variable {m : Market} {σ : Surroundings}

structure Governs (m : Market) (σ : Surroundings) : Prop where
  gasPrice : ∀ calls price, (σ.peers calls).answer .gasPrice = .ok price → price = m.gasPrice
  percentage : ∀ calls n, (σ.peers calls).answer .productFeePercentage = .ok n → n = m.percentage
  gas : ∀ calls target value data n, (σ.peers calls).answer (.estimateGas target value data) = .ok n → n = m.gas target

def gasFee (m : Market) (collector destination : Address) : Nat :=
  ((m.gas destination).toNat + if m.percentage = 0 then 0 else (m.gas collector).toNat) * m.gasPrice.toNat

def Charges (m : Market) (s : Settings) (amount : Wei) : Prop :=
  m.percentage = 0 ∨ s.feeScale.toNat ≤ amount.toNat * s.productShare m.percentage

lemma Charges.share_ne_zero_iff {s : Settings} {amount : Wei} (charges : m.Charges s amount) (scaled : s.feeScale.toNat ≠ 0) :
    amount.toNat * s.productShare m.percentage / s.feeScale.toNat ≠ 0 ↔ m.percentage ≠ 0 := by
  rcases charges with free | charges
  · rw [free, Settings.productShare]
    simp
  · have hd : m.percentage ≠ 0 := by
      rintro free
      rw [free, Settings.productShare] at charges
      simp at charges
      exact scaled charges
    exact iff_of_true (Nat.div_pos charges (Nat.pos_of_ne_zero scaled)).ne' hd

section

variable {t : Trace} (governs : m.Governs σ)

include governs

lemma Governs.gasPrice_of_mem {price : Wei} (h : ⟨.gasPrice, .ok price⟩ ∈ t.replies σ) : price = m.gasPrice := by
  obtain ⟨calls, answered⟩ := exists_answer_of_mem_replies _ _ _ h
  exact governs.gasPrice calls price answered.symm

lemma Governs.percentage_of_mem {n : UInt64} (h : ⟨.productFeePercentage, .ok n⟩ ∈ t.replies σ) : n = m.percentage := by
  obtain ⟨calls, answered⟩ := exists_answer_of_mem_replies _ _ _ h
  exact governs.percentage calls n answered.symm

lemma Governs.gas_of_mem (target : Address) (value : Wei) (data : CallData) {n : UInt64}
    (h : ⟨.estimateGas target value data, .ok n⟩ ∈ t.replies σ) : n = m.gas target := by
  obtain ⟨calls, answered⟩ := exists_answer_of_mem_replies _ _ _ h
  exact governs.gas calls target value data n answered.symm

lemma Governs.quoted {s : Store} {r : QuoteRequest} {p : PricedQuote} {x : Quoting.Terms} {l : List Reply} {total : Wei}
    (drafts : Quoting.Drafts r σ (.start s) t p x l total) :
    p.quote.gasFee.toNat = m.gasFee σ.settings.feeCollector x.destination ∧
      p.quote.productFee.toNat = r.value.toNat * m.percentage.toNat / 100 := by
  obtain ⟨minimum, -, replies⟩ := drafts.replies
  have told : x.replies r l ⊆ t.replies σ := by
    rw [replies]
    exact List.subset_append_of_subset_left _ (List.subset_append_right _ _)
  have callGas : x.callGas = m.gas x.destination :=
    governs.gas_of_mem _ r.value r.data (told (by simp [Quoting.Terms.replies]))
  have gasPrice : x.gasPrice = m.gasPrice := governs.gasPrice_of_mem (told (by simp [Quoting.Terms.replies]))
  have gasFee := drafts.gathers.gasFee
  rw [callGas, gasPrice] at gasFee
  rw [drafts.quote, Quoting.Terms.quote]
  dsimp only
  obtain ⟨percentage, levies⟩ := drafts.gathers.levies
  generalize x.productFee = fee at levies ⊢
  generalize x.productGas = gas at levies gasFee
  cases levies with
  | nothing =>
    have free : 0 = m.percentage := governs.percentage_of_mem (told (by simp [Quoting.Terms.replies]))
    rw [gasFee, Market.gasFee, ← free]
    simp
  | share charged part =>
    have charged' : percentage = m.percentage := governs.percentage_of_mem (told (by simp [Quoting.Terms.replies]))
    have productGas : gas = m.gas σ.settings.feeCollector :=
      governs.gas_of_mem _ fee .empty (told (by simp [Quoting.Terms.replies]))
    rw [gasFee, part, productGas, ← charged', Market.gasFee, if_neg (charged' ▸ charged)]
    exact ⟨rfl, rfl⟩

lemma Governs.recommended {s : Store} {budget : Wei} {destination : String} {data : CallData} {r : Recommendation}
    {x : Recommendation.Terms} {l : List Reply} (charges : m.Charges σ.settings budget)
    (recommends : Recommendation.Recommends budget destination data σ (.start s) t r x l) :
    x.percentage = m.percentage ∧ r.gasFee.toNat = m.gasFee σ.settings.feeCollector
      ((Address.ofText? destination).getD Recommendation.zeroAddress) := by
  have head : ⟨.productFeePercentage, .ok x.percentage⟩ ∈ t.replies σ := by simp [recommends.replies]
  have percentage : x.percentage = m.percentage := governs.percentage_of_mem head
  have told : l ⊆ t.replies σ := by
    rw [recommends.replies]
    exact List.subset_append_of_subset_left _ (List.subset_append_right _ _)
  have callGas := governs.gas_of_mem _ budget data (told recommends.estimates.mem.1)
  have gasPrice := governs.gasPrice_of_mem (told recommends.estimates.mem.2)
  have share := charges.share_ne_zero_iff recommends.scaled
  have estimates := recommends.estimates
  rw [percentage] at estimates
  refine ⟨percentage, ?_⟩
  rw [recommends.gasFee, Market.gasFee, gasPrice, callGas, Nat.add_comm]
  generalize x.productGas = gas at estimates
  cases estimates with
  | nothing free => rw [if_pos (not_not.mp fun hd => share.mpr hd free), UInt64.toNat_zero]
  | payment fee estimated charged =>
    have productGas := governs.gas_of_mem σ.settings.feeCollector fee .empty (told List.mem_cons_self)
    rw [if_neg (share.mp charged), productGas]

end

end Market

lemma Address.parse_eq_ok_iff {text : String} {a : Address} : Address.parse text = .ok a ↔ Address.ofText? text = some a := by
  rw [Address.parse]
  cases Address.ofText? text <;> simp

/-- The fees of a quote are the gas fee of the market and the shares that a recommendation reckons with. -/
structure Market.Prices (m : Market) (s : Settings) (destination : String) (q : Quote) : Prop where
  gasFee : q.gasFee.toNat =
    m.gasFee s.feeCollector ((Address.ofText? destination).getD Recommendation.zeroAddress)
  callFee : q.callFee.toNat = q.value.toNat * s.callShare / s.feeScale.toNat + s.fixedFee.toNat
  productFee : q.productFee.toNat = q.value.toNat * s.productShare m.percentage / s.feeScale.toNat

lemma Market.Governs.prices {m : Market} {σ : Surroundings} {s : Store} {t : Trace} {r : QuoteRequest} {p : PricedQuote}
    {x : Quoting.Terms} {l : List Reply} {total : Wei} (governs : m.Governs σ)
    (drafts : Quoting.Drafts r σ (.start s) t p x l total) (hundreds : 100 ∣ σ.settings.feeScale.toNat)
    (scaled : σ.settings.feeScale.toNat ≠ 0) : m.Prices σ.settings r.destination p.quote := by
  obtain ⟨gasFee, productFee⟩ := governs.quoted drafts
  have value : p.quote.value = r.value := by rw [drafts.quote, Quoting.Terms.quote]
  have callFee : p.quote.callFee = x.callFee := by rw [drafts.quote, Quoting.Terms.quote]
  constructor
  · rw [gasFee, Address.parse_eq_ok_iff.mp drafts.gathers.destination, Option.getD_some]
  · rw [callFee, value, drafts.gathers.callFee, Settings.callShare]
  · rw [productFee, value, Settings.productShare, mul_share_div_scale hundreds scaled]

/-- Two runs meet the same market and the same settings, whose scale divides into whole percents. -/
structure Market.Spans (m : Market) (σ σ' : Surroundings) : Prop where
  settings : σ'.settings = σ.settings
  hundreds : 100 ∣ σ.settings.feeScale.toNat
  first : m.Governs σ
  second : m.Governs σ'

lemma Recommendation.Recommends.fits {budget : Wei} {destination : String} {data : CallData} {σ : Surroundings} {t t' : Trace}
    {r : Recommendation} {x : Terms} {l : List Reply} (h : Recommends budget destination data σ t t' r x l) :
    r.value.toNat + r.gasFee.toNat + r.callFee.toNat + r.productFee.toNat ≤ budget.toNat := by
  have shares := value_add_shares_le h.scaled h.value
  have enough := h.enough
  rw [h.callFee, h.productFee]
  omega

/-- The budget pays for what is recommended; a quote for the recommended value has the estimated fees. -/
theorem recommendation_fits_budget (budget : Wei) (destination : String) (data : CallData) (σ : Surroundings) (s : Store)
    (r : Recommendation) (recommended : ((recommendValue budget destination data).exec σ s).result = .ok r) :
    r.value.toNat + r.gasFee.toNat + r.callFee.toNat + r.productFee.toNat ≤ budget.toNat ∧
      ∀ (m : Market) (σ' : Surroundings) (s' : Store) (request : QuoteRequest) (p : PricedQuote), m.Spans σ σ' →
        m.Charges σ.settings budget → request.value = r.value → request.destination = destination →
          ((getQuote request).exec σ' s').result = .ok p →
            p.quote.gasFee = r.gasFee ∧ p.quote.callFee = r.callFee ∧ p.quote.productFee = r.productFee ∧
              ∃ total, p.quote.total = .ok total ∧ total ≤ budget := by
  obtain ⟨t, x, l, recommends⟩ := Recommendation.recommends_of_recommendValue_eq_ok recommended
  have fits := recommends.fits
  refine ⟨fits, ?_⟩
  rintro m σ' s' request p spans charges value rfl quoted
  obtain ⟨t', y, l', total, drafts⟩ := Quoting.drafts_of_getQuote_eq_ok quoted
  obtain ⟨percentage, gasFee⟩ := spans.first.recommended charges recommends
  have prices := spans.second.prices drafts (spans.settings ▸ spans.hundreds) (spans.settings ▸ recommends.scaled)
  have asked : p.quote.value = r.value := by rw [drafts.quote, Quoting.Terms.quote, value]
  rw [spans.settings] at prices
  have gas : p.quote.gasFee = r.gasFee := Wei.ext_toNat (by rw [prices.gasFee, gasFee])
  have call : p.quote.callFee = r.callFee := Wei.ext_toNat (by rw [prices.callFee, recommends.callFee, asked])
  have product : p.quote.productFee = r.productFee :=
    Wei.ext_toNat (by rw [prices.productFee, recommends.productFee, asked, percentage])
  refine ⟨gas, call, product, total, drafts.total, ?_⟩
  have sum := Quote.total_eq_ok_iff.mp drafts.total
  rw [asked, gas, call, product] at sum
  rw [Wei.le_iff]
  omega

namespace Sample

def chargingPeers : Peers := { peers with
  answer
    | .productFeePercentage => .ok 10
    | q => peers.answer q }

def chargingSurroundings : Surroundings :=
  ⟨⟨fun _ => chargingPeers, 0, 1⟩, { settings with feePercentage := .ofNat 1 }, fun _ => false⟩

def market : Market := ⟨.ofUInt64 1, 10, fun _ => 21000⟩

def budget : Wei := .ofUInt64 43000

def recommendation : Recommendation := ⟨.ofUInt64 900, .ofUInt64 42000, .ofUInt64 9, .ofUInt64 90⟩

def recommendedRequest : QuoteRequest := { request with value := recommendation.value }

def recommendedTotal : Wei := .ofUInt64 42999

lemma market_spans : market.Spans chargingSurroundings chargingSurroundings := by
  have governs : market.Governs chargingSurroundings :=
    ⟨fun _ _ h => (Except.ok.inj h).symm, fun _ _ h => (Except.ok.inj h).symm, fun _ _ _ _ _ h => (Except.ok.inj h).symm⟩
  exact ⟨rfl, by decide, governs, governs⟩

lemma market_charges {amount : Wei} (h : 10 ≤ amount.toNat) : market.Charges chargingSurroundings.settings amount := by
  have share : chargingSurroundings.settings.productShare market.percentage = 10 := by decide
  have scale : chargingSurroundings.settings.feeScale.toNat = 100 := by decide
  right
  rw [share, scale]
  omega

lemma eq_ok_of_toOption_eq_some {ε α : Type} {e : Except ε α} {a : α} (h : e.toOption = some a) : e = .ok a := by
  cases e with
  | error _ => cases h
  | ok b => exact congrArg Except.ok (Option.some.inj h)

lemma recommended_of_budget :
    ((recommendValue budget request.destination .empty).exec chargingSurroundings .empty).result = .ok recommendation :=
  eq_ok_of_toOption_eq_some (by decide +kernel)

lemma quoted_of_recommendation : ∃ p, ((getQuote recommendedRequest).exec chargingSurroundings .empty).result = .ok p ∧
    p.quote.total = .ok recommendedTotal := by
  have h : (((getQuote recommendedRequest).exec chargingSurroundings .empty).result.toOption.bind
      fun p => p.quote.total.toOption) = some recommendedTotal := by
    decide +kernel
  obtain ⟨p, quoted, total⟩ := Option.bind_eq_some_iff.mp h
  exact ⟨p, eq_ok_of_toOption_eq_some quoted, eq_ok_of_toOption_eq_some total⟩

lemma recommended_of_total :
    ((recommendValue recommendedTotal request.destination .empty).exec chargingSurroundings .empty).result =
      .ok recommendation :=
  eq_ok_of_toOption_eq_some (by decide +kernel)

end Sample

theorem sample_recommendation_fits : ∃ p, ((getQuote Sample.recommendedRequest).exec Sample.chargingSurroundings .empty).result = .ok p ∧
    p.quote.gasFee = Sample.recommendation.gasFee ∧ p.quote.callFee = Sample.recommendation.callFee ∧
      p.quote.productFee = Sample.recommendation.productFee ∧
        ∃ total, p.quote.total = .ok total ∧ total ≤ Sample.budget := by
  obtain ⟨p, quoted, -⟩ := Sample.quoted_of_recommendation
  obtain ⟨-, agrees⟩ := recommendation_fits_budget _ _ _ _ _ _ Sample.recommended_of_budget
  exact ⟨p, quoted, agrees Sample.market _ .empty Sample.recommendedRequest p Sample.market_spans
    (Sample.market_charges (by decide)) rfl rfl quoted⟩

/-- The total of a quote, as a budget, gets its value recommended again, up to two units and up to one without a product
fee, and the same gas fee. -/
theorem recommendation_inverts_quote (m : Market) (σ σ' : Surroundings) (s s' : Store) (request : QuoteRequest)
    (p : PricedQuote) (total : Wei) (r : Recommendation) (spans : m.Spans σ σ') (charges : m.Charges σ.settings total)
    (quoted : ((getQuote request).exec σ s).result = .ok p) (demanded : p.quote.total = .ok total)
    (recommended : ((recommendValue total request.destination request.data).exec σ' s').result = .ok r) :
    r.value.toNat ≤ p.quote.value.toNat ∧ p.quote.value.toNat ≤ r.value.toNat + 2 ∧
      (m.percentage = 0 → p.quote.value.toNat ≤ r.value.toNat + 1) ∧ r.gasFee = p.quote.gasFee := by
  obtain ⟨t, x, l, demanded', drafts⟩ := Quoting.drafts_of_getQuote_eq_ok quoted
  obtain ⟨t', y, l', recommends⟩ := Recommendation.recommends_of_recommendValue_eq_ok recommended
  obtain ⟨percentage, gasFee⟩ := spans.second.recommended (spans.settings ▸ charges) recommends
  have scaled := recommends.scaled
  have value := recommends.value
  rw [spans.settings] at scaled value gasFee
  have prices := spans.first.prices drafts spans.hundreds scaled
  have gas : r.gasFee = p.quote.gasFee := Wei.ext_toNat (by rw [prices.gasFee, gasFee])
  have sum := Quote.total_eq_ok_iff.mp demanded
  rw [prices.callFee, prices.productFee] at sum
  -- without its fixed costs the total is the value and its shares
  have rest : total.toNat - (p.quote.gasFee.toNat + σ.settings.fixedFee.toNat) =
      p.quote.value.toNat + p.quote.value.toNat * σ.settings.callShare / σ.settings.feeScale.toNat +
        p.quote.value.toNat * σ.settings.productShare m.percentage / σ.settings.feeScale.toNat := by
    generalize p.quote.value.toNat * σ.settings.callShare / σ.settings.feeScale.toNat = call at sum ⊢
    generalize p.quote.value.toNat * σ.settings.productShare m.percentage / σ.settings.feeScale.toNat = product at sum ⊢
    omega
  rw [gas, rest, percentage] at value
  obtain ⟨upper, lower, single⟩ := inverted_value_bounds scaled value
  refine ⟨upper, lower, fun free => single ?_, gas⟩
  rw [free, Settings.productShare, UInt64.toNat_zero, Nat.zero_mul, Nat.zero_div]

theorem sample_quote_inverted :
    ∃ p, ((getQuote Sample.recommendedRequest).exec Sample.chargingSurroundings .empty).result = .ok p ∧
      Sample.recommendation.value.toNat ≤ p.quote.value.toNat ∧
        p.quote.value.toNat ≤ Sample.recommendation.value.toNat + 2 ∧
          (Sample.market.percentage = 0 → p.quote.value.toNat ≤ Sample.recommendation.value.toNat + 1) ∧
            Sample.recommendation.gasFee = p.quote.gasFee := by
  obtain ⟨p, quoted, demanded⟩ := Sample.quoted_of_recommendation
  exact ⟨p, quoted, recommendation_inverts_quote Sample.market _ _ .empty .empty Sample.recommendedRequest p
    Sample.recommendedTotal Sample.recommendation Sample.market_spans (Sample.market_charges (by decide)) quoted demanded
    Sample.recommended_of_total⟩

end Flyover
