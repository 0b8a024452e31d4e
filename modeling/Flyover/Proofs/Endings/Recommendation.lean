import Flyover.Proofs.Endings.Acceptance
import Flyover.Proofs.Endings.Quoting
import Flyover.Recommendation

/-! What a recommendation that is made rests on. -/

namespace Flyover

def Settings.productShare (s : Settings) (percentage : UInt64) : Nat := percentage.toNat * s.feeScale.toNat / 100

def Settings.callShare (s : Settings) : Nat := (s.scaledFeePercentage s.feeScale).toNat

namespace Recommendation

open Run Trace

def productGas (productFee : Wei) : Run UInt64 :=
  if productFee = 0 then pure 0
  else do ask (.estimateGas (← settings).feeCollector productFee .empty)

def totalGasFee (destination : Address) (budget : Wei) (data : CallData) (productGas : UInt64) : Run Wei := do
  let callGas ← ask (.estimateGas destination budget data)
  let gasPrice ← ask .gasPrice
  let gas ← Quoting.addGas productGas callGas
  (Wei.ofUInt64 gas).mul gasPrice

lemma estimateGasFee_eq (destination : Address) (budget : Wei) (data : CallData) (productFee : Wei) :
    estimateGasFee destination budget data productFee = productGas productFee >>= totalGasFee destination budget data := by
  rw [estimateGasFee, productGas]
  split
  · exact (pure_bind _ _).symm
  · rw [bind_assoc]
    rfl

inductive Estimates (collector destination : Address) (budget : Wei) (data : CallData) (productFee : Nat)
    (callGas : UInt64) (gasPrice : Wei) : UInt64 → List Reply → Prop
  | nothing (free : productFee = 0) : Estimates collector destination budget data productFee callGas gasPrice 0
      [⟨.estimateGas destination budget data, .ok callGas⟩, ⟨.gasPrice, .ok gasPrice⟩]
  | payment {productGas : UInt64} (fee : Wei) (estimated : fee.toNat = productFee) (charged : productFee ≠ 0) :
      Estimates collector destination budget data productFee callGas gasPrice productGas
        [⟨.estimateGas collector fee .empty, .ok productGas⟩, ⟨.estimateGas destination budget data, .ok callGas⟩,
          ⟨.gasPrice, .ok gasPrice⟩]

lemma Estimates.mem {collector destination : Address} {budget : Wei} {data : CallData} {productFee : Nat} {callGas gas : UInt64}
    {gasPrice : Wei} {l : List Reply} (h : Estimates collector destination budget data productFee callGas gasPrice gas l) :
    ⟨.estimateGas destination budget data, .ok callGas⟩ ∈ l ∧ ⟨.gasPrice, .ok gasPrice⟩ ∈ l := by
  cases h with
  | nothing free => simp
  | payment fee estimated charged => simp

section

variable {σ : Surroundings} {t t' : Trace} {budget : Wei} {data : CallData}

lemma estimates_of_resume_estimateGasFee_eq_ok {destination : Address} {productFee fee : Wei}
    (h : (estimateGasFee destination budget data productFee).resume σ t = ⟨.ok fee, t'⟩) :
    ∃ productGas callGas gasPrice l,
      Estimates σ.settings.feeCollector destination budget data productFee.toNat callGas gasPrice productGas l ∧
        fee.toNat = (productGas.toNat + callGas.toNat) * gasPrice.toNat ∧ t'.replies σ = t.replies σ ++ l := by
  simp only [estimateGasFee_eq, totalGasFee, resume_bind_eq_ok_iff, resume_lift_eq_ok_iff] at h
  obtain ⟨productGas, t₁, hp, callGas, t₂, hc, gasPrice, t₃, hg, gas, _, ⟨ha, rfl⟩, hf, rfl⟩ := h
  have price : fee.toNat = (productGas.toNat + callGas.toNat) * gasPrice.toNat := by
    rw [Wei.mul_eq_ok_iff.mp hf, Wei.toNat_ofUInt64, Quoting.addGas_eq_ok_iff.mp ha]
  have replies : t₃.replies σ = t₁.replies σ ++
      [⟨.estimateGas destination budget data, .ok callGas⟩, ⟨.gasPrice, .ok gasPrice⟩] := by
    rw [replies_of_resume_ask hg, replies_of_resume_ask hc, List.append_assoc]
    rfl
  rw [Recommendation.productGas] at hp
  split at hp
  · rename_i free
    subst free
    obtain ⟨rfl, rfl⟩ := resume_pure_eq_ok_iff.mp hp
    exact ⟨_, _, _, _, .nothing rfl, price, replies⟩
  · rename_i charged
    simp only [resume_bind_eq_ok_iff, resume_settings_eq_ok_iff] at hp
    obtain ⟨_, _, ⟨rfl, rfl⟩, asked⟩ := hp
    refine ⟨_, _, _, _, .payment productFee rfl (Wei.ne_zero_iff.mp charged), price, ?_⟩
    rw [replies, replies_of_resume_ask asked, List.append_assoc]
    rfl

lemma valueOf_eq_ok {fixedCosts scale product call value : Wei} (h : valueOf budget fixedCosts scale product call = .ok value) :
    fixedCosts.toNat ≤ budget.toNat ∧ value.toNat =
      (budget.toNat - fixedCosts.toNat) * scale.toNat / (scale.toNat + product.toNat + call.toNat) := by
  simp only [valueOf, bind_eq_ok_iff] at h
  obtain ⟨withProduct, hw, divisor, hd, rest, hr, hv⟩ := h
  obtain ⟨enough, left⟩ := Wei.sub_eq_ok_iff.mp hr
  rw [(Wei.mulDiv_eq_ok_iff.mp hv).2.2, left, Wei.add_eq_ok_iff.mp hd, Wei.add_eq_ok_iff.mp hw]
  exact ⟨enough, rfl⟩

structure Terms where
  percentage : UInt64
  productGas : UInt64
  callGas : UInt64
  gasPrice : Wei
  networkBalance : Wei
  contractBalance : Wei
  minimum : Wei

structure Recommends (budget : Wei) (destination : String) (data : CallData) (σ : Surroundings) (t t' : Trace)
    (r : Recommendation) (x : Terms) (l : List Reply) : Prop where
  scaled : σ.settings.feeScale.toNat ≠ 0
  estimates : Estimates σ.settings.feeCollector ((Address.ofText? destination).getD zeroAddress) budget data
    (budget.toNat * σ.settings.productShare x.percentage / σ.settings.feeScale.toNat) x.callGas x.gasPrice x.productGas l
  gasFee : r.gasFee.toNat = (x.productGas.toNat + x.callGas.toNat) * x.gasPrice.toNat
  enough : r.gasFee.toNat + σ.settings.fixedFee.toNat ≤ budget.toNat
  value : r.value.toNat = (budget.toNat - (r.gasFee.toNat + σ.settings.fixedFee.toNat)) * σ.settings.feeScale.toNat /
    (σ.settings.feeScale.toNat + σ.settings.productShare x.percentage + σ.settings.callShare)
  inRange : σ.settings.checkAmount r.value = .ok ()
  covered : r.value.toNat ≤ x.networkBalance.toNat + x.contractBalance.toNat - t.store.locked
  reached : x.minimum ≤ r.value
  callFee : r.callFee.toNat = r.value.toNat * σ.settings.callShare / σ.settings.feeScale.toNat + σ.settings.fixedFee.toNat
  productFee : r.productFee.toNat = r.value.toNat * σ.settings.productShare x.percentage / σ.settings.feeScale.toNat
  replies : t'.replies σ = t.replies σ ++ [⟨.productFeePercentage, .ok x.percentage⟩] ++ l ++
    [⟨.balance σ.settings.provider, .ok x.networkBalance⟩, ⟨.contractBalance σ.settings.provider, .ok x.contractBalance⟩,
      ⟨.minimumDeposit, .ok x.minimum⟩]

lemma estimateGasFee_inquires (destination : Address) (budget : Wei) (data : CallData) (productFee : Wei) :
    (estimateGasFee destination budget data productFee).Keeps Trace.Asks := by
  rw [estimateGasFee_eq]
  refine .bind (.ite (.pure _) (.bind .settings fun settings => .inquire rfl)) fun productGas => ?_
  refine .bind (.inquire rfl) fun callGas => ?_
  refine .bind (.inquire rfl) fun gasPrice => ?_
  exact .bind (.lift _) fun gas => .lift _

lemma recommends_of_resume_compute_eq_ok {destination : String} {r : Recommendation}
    (h : (compute budget destination data).resume σ t = ⟨.ok r, t'⟩) :
    ∃ x l, Recommends budget destination data σ t t' r x l := by
  simp only [compute, resume_bind_eq_ok_iff, resume_settings_eq_ok_iff, resume_lift_eq_ok_iff] at h
  obtain ⟨_, _, ⟨rfl, rfl⟩, percentage, t₁, hp, product, _, ⟨hs, rfl⟩, estimate, _, ⟨he, rfl⟩, gasFee, t₂, hg, fixedCosts, _,
    ⟨hf, rfl⟩, h⟩ := h
  split at h
  · obtain ⟨_, _, h, -⟩ := resume_bind_eq_ok_iff.mp h
    cases h
  simp only [resume_bind_eq_ok_iff, resume_lift_eq_ok_iff, resume_mapError_eq_ok_iff, resume_pure_eq_ok_iff] at h
  obtain ⟨value, _, ⟨hv, rfl⟩, _, _, ⟨inRange, rfl⟩, _, t₃, hl, _, t₄, hm, callFee, _, ⟨hc, rfl⟩, productFee, _, ⟨hpf, rfl⟩,
    rfl, rfl⟩ := h
  obtain ⟨productGas, callGas, gasPrice, l, estimates, price, gathered⟩ := estimates_of_resume_estimateGasFee_eq_ok hg
  obtain ⟨x, y, covered, balances⟩ := Liquidity.resume_require_eq_ok hl
  obtain ⟨minimum, reached, weighed⟩ := Quoting.resume_requireMinimumDeposit_eq_ok hm
  have share : product.toNat = σ.settings.productShare percentage := (Wei.mulDiv_eq_ok_iff.mp hs).2.2
  obtain ⟨-, scaled, estimated⟩ := Wei.mulDiv_eq_ok_iff.mp he
  have fixed := Wei.add_eq_ok_iff.mp hf
  obtain ⟨enough, value_eq⟩ := valueOf_eq_ok hv
  have asked : t.Asks t₁ := (Keeps.inquire (p := fun c => c.isPassive) rfl).of_resume hp
  have inquired := trans_of _ asked ((estimateGasFee_inquires _ _ _ _).of_resume hg)
  rw [estimated, share] at estimates
  rw [fixed, share] at value_eq
  refine ⟨⟨percentage, productGas, callGas, gasPrice, x, y, minimum⟩, l, ?_⟩
  exact {
    scaled := Wei.ne_zero_iff.mp scaled
    estimates
    gasFee := price
    enough := fixed ▸ enough
    value := value_eq
    inRange
    covered := inquired.store_eq ▸ covered
    reached
    callFee := Quoting.callFee_eq_ok hc
    productFee := share ▸ (Wei.mulDiv_eq_ok_iff.mp hpf).2.2
    replies := by
      rw [weighed, balances, gathered, replies_of_resume_ask hp]
      simp only [List.append_assoc, List.cons_append, List.nil_append] }

lemma recommends_of_recommendValue_eq_ok {destination : String} {s : Store} {r : Recommendation}
    (h : ((recommendValue budget destination data).exec σ s).result = .ok r) :
    ∃ t' x l, Recommends budget destination data σ (.start s) t' r x l :=
  ⟨_, recommends_of_resume_compute_eq_ok (resume_mapError_eq_ok_iff.mp (resume_eq_of_result_eq_ok h))⟩

end

end Recommendation

end Flyover
