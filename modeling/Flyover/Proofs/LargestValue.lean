import Flyover.Proofs.Recommendations

/-! How near a recommended value comes to the largest one whose total is within the budget: the value is inverted from the
budget with one division, while the total of a value rounds each of its two proportional fees. -/

namespace Flyover

structure Tariff where
  scale : Nat
  call : Nat
  product : Nat
  fixedFee : Nat
  gasFee : Nat

namespace Tariff

def total (f : Tariff) (value : Nat) : Nat :=
  value + value * f.call / f.scale + f.fixedFee + value * f.product / f.scale + f.gasFee

def divisor (f : Tariff) : Nat := f.scale + f.product + f.call

def fixedCosts (f : Tariff) : Nat := f.gasFee + f.fixedFee

def exactTotal (f : Tariff) (value : Nat) : Nat := value * f.divisor + f.fixedCosts * f.scale

def dust (f : Tariff) (value : Nat) : Nat := value * f.call % f.scale + value * f.product % f.scale

def leeway (f : Tariff) (budget : Nat) : Nat := (budget - f.fixedCosts) * f.scale

def invert (f : Tariff) (budget : Nat) : Nat := f.leeway budget / f.divisor

variable {f : Tariff} {budget value : Nat}

lemma total_mono (h : value ≤ budget) : f.total value ≤ f.total budget := by
  have call : value * f.call / f.scale ≤ budget * f.call / f.scale := Nat.div_le_div_right (Nat.mul_le_mul_right _ h)
  have product : value * f.product / f.scale ≤ budget * f.product / f.scale :=
    Nat.div_le_div_right (Nat.mul_le_mul_right _ h)
  rw [total, total]
  omega

lemma total_mul_scale_add_dust (f : Tariff) (value : Nat) : f.total value * f.scale + f.dust value = f.exactTotal value := by
  have call := Nat.div_add_mod' (value * f.call) f.scale
  have product := Nat.div_add_mod' (value * f.product) f.scale
  rw [total, dust, exactTotal, divisor, fixedCosts]
  simp only [Nat.add_mul, Nat.mul_add]
  omega

lemma total_le_iff (scaled : f.scale ≠ 0) :
    f.total value ≤ budget ↔ f.exactTotal value ≤ budget * f.scale + f.dust value := by
  rw [← total_mul_scale_add_dust, Nat.add_le_add_iff_right]
  exact (Nat.mul_le_mul_right_iff (Nat.pos_of_ne_zero scaled)).symm

lemma exactTotal_le_iff (extra : Nat) (enough : f.fixedCosts ≤ budget) :
    f.exactTotal value ≤ budget * f.scale + extra ↔ value * f.divisor ≤ f.leeway budget + extra := by
  have split : f.leeway budget + f.fixedCosts * f.scale = budget * f.scale := by
    rw [leeway, ← Nat.add_mul, Nat.sub_add_cancel enough]
  rw [exactTotal]
  omega

lemma isGreatest_iff (paid : f.total value ≤ budget) :
    IsGreatest {w | f.total w ≤ budget} value ↔ budget < f.total (value + 1) := by
  refine ⟨fun greatest => ?_, fun dear => ⟨paid, fun w hw => ?_⟩⟩
  · by_contra affordable
    exact Nat.not_succ_le_self value (greatest.2 (not_lt.mp affordable))
  · by_contra larger
    exact Nat.not_lt.mpr ((total_mono (not_le.mp larger)).trans hw) dear

/-- How the value inverted from a budget stands to the values whose total is within the budget. -/
structure Inverts (f : Tariff) (budget value : Nat) : Prop where
  paid : f.total value ≤ budget
  exact (w : Nat) : f.exactTotal w ≤ budget * f.scale ↔ w ≤ value
  near (w : Nat) : f.total w ≤ budget → w ≤ value + 2
  nearer (single : f.call = 0 ∨ f.product = 0) (w : Nat) : f.total w ≤ budget → w ≤ value + 1
  greatest_iff : IsGreatest {w | f.total w ≤ budget} value ↔ f.leeway budget % f.divisor + f.dust (value + 1) < f.divisor

lemma inverts_invert (scaled : f.scale ≠ 0) (enough : f.fixedCosts ≤ budget) : f.Inverts budget (f.invert budget) := by
  have positive : 0 < f.divisor := by
    rw [divisor]
    omega
  have quotient : f.invert budget = (budget - f.fixedCosts) * f.scale / (f.scale + f.product + f.call) := rfl
  have shares (w : Nat) (h : f.total w ≤ budget) :
      w + w * f.call / f.scale + w * f.product / f.scale ≤ budget - f.fixedCosts := by
    rw [total] at h
    rw [fixedCosts]
    omega
  have exact (w : Nat) : f.exactTotal w ≤ budget * f.scale ↔ w ≤ f.invert budget :=
    (exactTotal_le_iff 0 enough).trans (Nat.le_div_iff_mul_le positive).symm
  have paid : f.total (f.invert budget) ≤ budget :=
    (total_le_iff scaled).mpr (((exact _).mpr le_rfl).trans (Nat.le_add_right _ _))
  refine ⟨paid, exact, ?_, ?_, ?_⟩
  · exact fun w hw => (le_quotient_of_add_shares_le scaled quotient (shares w hw)).1
  · exact fun single w hw => (le_quotient_of_add_shares_le scaled quotient (shares w hw)).2 single
  · -- the successor is too dear if neither the remainder nor its dust makes up for another divisor
    have division := Nat.div_add_mod' (f.leeway budget) f.divisor
    rw [isGreatest_iff paid, ← not_le, total_le_iff scaled, exactTotal_le_iff _ enough, not_le, Nat.succ_mul]
    rw [← invert] at division
    omega

end Tariff

def Settings.tariff (s : Settings) (percentage : UInt64) (gasFee : Wei) : Tariff where
  scale := s.feeScale.toNat
  call := s.callShare
  product := s.productShare percentage
  fixedFee := s.fixedFee.toNat
  gasFee := gasFee.toNat

namespace Recommendation

open Run Trace

variable {σ : Surroundings} {t t' : Trace} {budget : Wei} {destination : String} {data : CallData} {r : Recommendation}
  {x : Terms} {l : List Reply}

lemma Recommends.inverts (h : Recommends budget destination data σ t t' r x l) :
    (σ.settings.tariff x.percentage r.gasFee).Inverts budget.toNat r.value.toNat := by
  have value : r.value.toNat = (σ.settings.tariff x.percentage r.gasFee).invert budget.toNat := h.value
  rw [value]
  exact Tariff.inverts_invert h.scaled h.enough

lemma Recommends.told {s : Store} (h : Recommends budget destination data σ (.start s) t' r x l) :
    Told (t'.replies σ) .productFeePercentage x.percentage := by
  have estimates := h.estimates
  rw [Told, h.replies]
  generalize x.productGas = gas at estimates
  cases estimates <;> simp

end Recommendation

/-- A recommended value is the largest whose exact total is within the budget. Of the values whose rounded total is, it is
the largest or falls short of that by one or two, and which of these is a matter of the remainders. -/
theorem recommendation_nearly_largest (budget : Wei) (destination : String) (data : CallData) (σ : Surroundings) (s : Store)
    (r : Recommendation) (t : Trace) (recommended : (recommendValue budget destination data).exec σ s = ⟨.ok r, t⟩) :
    ∃ percentage, Told (t.replies σ) .productFeePercentage percentage ∧
      (σ.settings.tariff percentage r.gasFee).Inverts budget.toNat r.value.toNat := by
  obtain ⟨x, l, recommends⟩ :=
    Recommendation.recommends_of_resume_compute_eq_ok (Run.resume_mapError_eq_ok_iff.mp recommended)
  exact ⟨x.percentage, recommends.told, recommends.inverts⟩

namespace Sample

def fineSettings : Settings := { settings with
  feeScale := 10000
  feePercentage := .ofDecimal false 33 (-2)
  fixedFee := .ofUInt64 2000000000000
  minValue := .ofUInt64 5000000000000000
  maxValue := .ofUInt64 5000000000000000000 }

def finePeers : Peers := { peers with
  answer
    | .productFeePercentage => .ok 1
    | .gasPrice => .ok (.ofUInt64 60000000)
    | .estimateGas .. => .ok 25500
    | .balance _ => .ok (.ofUInt64 5000000000000000000)
    | q => peers.answer q }

def fineSurroundings : Surroundings := ⟨⟨fun _ => finePeers, 0, 1⟩, fineSettings, fun _ => false⟩

def fineBudget : Wei := .ofUInt64 6084860000010130

def fineRecommendation : Recommendation :=
  ⟨.ofUInt64 6000000000009997, .ofUInt64 3060000000000, .ofUInt64 21800000000032, .ofUInt64 60000000000099⟩

def fineTrace : Trace := ((recommendValue fineBudget request.destination .empty).exec fineSurroundings .empty).trace

lemma recommended_of_fineBudget : (recommendValue fineBudget request.destination .empty).exec fineSurroundings .empty =
    ⟨.ok fineRecommendation, fineTrace⟩ := by
  have result : ((recommendValue fineBudget request.destination .empty).exec fineSurroundings .empty).result =
      .ok fineRecommendation :=
    eq_ok_of_toOption_eq_some (by decide +kernel)
  rw [← result]
  rfl

end Sample

theorem sample_recommendation_nearly_largest : ∃ percentage,
    Told (Sample.fineTrace.replies Sample.fineSurroundings) .productFeePercentage percentage ∧
      (Sample.fineSettings.tariff percentage Sample.fineRecommendation.gasFee).Inverts Sample.fineBudget.toNat
        Sample.fineRecommendation.value.toNat :=
  recommendation_nearly_largest _ _ _ _ _ _ _ Sample.recommended_of_fineBudget

namespace Sample

lemma fineBudget_told : Told (fineTrace.replies fineSurroundings) .productFeePercentage 1 := by
  obtain ⟨x, l, recommends⟩ :=
    Recommendation.recommends_of_resume_compute_eq_ok (Run.resume_mapError_eq_ok_iff.mp recommended_of_fineBudget)
  have head : ⟨.productFeePercentage, .ok x.percentage⟩ ∈ fineTrace.replies fineSurroundings := by
    simp [recommends.replies]
  obtain ⟨_, answered⟩ := exists_answer_of_mem_replies _ _ _ head
  exact Except.ok.inj answered ▸ recommends.told

end Sample

theorem larger_value_within_budget :
    (recommendValue Sample.fineBudget Sample.request.destination .empty).exec Sample.fineSurroundings .empty =
        ⟨.ok Sample.fineRecommendation, Sample.fineTrace⟩ ∧
      Told (Sample.fineTrace.replies Sample.fineSurroundings) .productFeePercentage 1 ∧
        (Sample.fineSettings.tariff 1 Sample.fineRecommendation.gasFee).total (Sample.fineRecommendation.value.toNat + 2) =
            Sample.fineBudget.toNat ∧
          ¬ IsGreatest
            {w | (Sample.fineSettings.tariff 1 Sample.fineRecommendation.gasFee).total w ≤ Sample.fineBudget.toNat}
            Sample.fineRecommendation.value.toNat := by
  have paid : (Sample.fineSettings.tariff 1 Sample.fineRecommendation.gasFee).total
      (Sample.fineRecommendation.value.toNat + 2) = Sample.fineBudget.toNat := by
    decide +kernel
  refine ⟨Sample.recommended_of_fineBudget, Sample.fineBudget_told, paid, fun greatest => ?_⟩
  have above := greatest.2 paid.le
  omega

end Flyover
