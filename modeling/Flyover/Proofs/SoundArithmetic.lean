import Flyover.Proofs.ErrorTags
import Flyover.Proofs.Reports

/-! Under valid settings nothing is divided by zero, and no larger amount is subtracted from a smaller one. -/

namespace Flyover

open Run

namespace Error

def isOverflow : Error → Bool
  | weiOverflow _ => true
  | _ => false

def Defined (e : Error) : Prop := ∀ n, Node n e → ¬ n.isUndefined

variable {e : Error} {errors : List Error}

lemma defined_iff : e.Defined ↔ ¬ e.contains isUndefined := by
  rw [contains_iff]
  exact ⟨fun h ⟨n, hn, undefined⟩ => h n hn undefined, fun h n hn undefined => h ⟨n, hn, undefined⟩⟩

lemma defined_of_isPlain (h : e.isPlain) : e.Defined := by
  rintro n (_ | _ | _)
  · exact fun undefined => by simp [isPlain, undefined] at h
  · cases h
  · cases h

lemma isOverflow_of_isUndefined (h : e.isUndefined) : e.isOverflow := by
  cases e <;> first | rfl | cases h

lemma defined_of_not_contains (h : ¬ e.contains isOverflow) : e.Defined := by
  rw [contains_iff] at h
  exact fun n hn undefined => h ⟨n, hn, isOverflow_of_isUndefined undefined⟩

lemma defined_nonRecoverable (h : ∀ e ∈ errors, e.Defined) : (nonRecoverable errors).Defined := by
  intro n hn
  rcases node_nonRecoverable_iff.mp hn with rfl | ⟨e, he, hn⟩
  · exact Bool.false_ne_true
  · exact h e he n hn

namespace Defined

variable (h : e.Defined) (u : UseCase) (args : ErrorArgs)

include h

lemma inUseCase : (Error.inUseCase u args e).Defined := by
  intro n hn
  rcases node_inUseCase_iff.mp hn with rfl | hn
  · exact Bool.false_ne_true
  · exact h n hn

lemma orWithin : (e.orWithin u args).Defined := by
  cases e <;> first | exact h | exact h.inUseCase u args

lemma withdrawalError : (Collateral.withdrawalError e).Defined := by
  cases e with
  | contractReverted reason receipt =>
    rw [Collateral.withdrawalError]
    split
    · exact defined_of_isPlain rfl
    · exact h
  | _ => exact h

end Defined

end Error

open Error

structure Surroundings.SparesAmounts (σ : Surroundings) : Prop where
  answer (calls : List Call) (q : Question) (e : Error) :
    (σ.peers calls).answer q = .error e → ¬ e.contains isOverflow
  outage (calls : List Call) (a : Access) (e : Error) : (σ.peers calls).outage a = some e → ¬ e.contains isOverflow

lemma Settings.feeScale_of_validate {s : Settings} (valid : s.validate = .ok ()) :
    s.feeScale ≠ 0 ∧ s.feeScale % 100 = 0 := by
  by_contra wrong
  rw [not_and_or, not_not] at wrong
  rw [validate, if_pos wrong] at valid
  cases valid

lemma Settings.scaledPercentage_exact {scale : UInt64} (hundreds : scale % 100 = 0) (percentage : UInt64) :
    ∃ a, scaledPercentage percentage scale = .ok a ∧ 100 * a.toNat = percentage.toNat * scale.toNat := by
  have divides : 100 ∣ percentage.toNat * scale.toNat := by
    refine Dvd.dvd.mul_left (Nat.dvd_of_mod_eq_zero ?_) _
    exact congrArg UInt64.toNat hundreds
  -- the product has 128 bits at most
  have fits : percentage.toNat * scale.toNat < Wei.bound :=
    Nat.lt_of_lt_of_le (Nat.mul_lt_mul'' percentage.toNat_lt scale.toNat_lt) (by decide)
  refine ⟨⟨percentage.toNat * scale.toNat / 100, (Nat.div_le_self _ _).trans_lt fits⟩, ?_, Nat.mul_div_cancel' divides⟩
  exact Wei.mulDiv_eq_ok_iff.mpr ⟨fits, by decide, rfl⟩

section

variable {σ : Surroundings} (scaled : σ.settings.feeScale ≠ 0) (spares : σ.SparesAmounts) {e : Error}

include scaled spares

lemma Error.Arises.defined (h : Arises σ e) : e.Defined := by
  induction h with
  | answer h => exact defined_of_not_contains (spares.answer _ _ _ h)
  | outage h => exact defined_of_not_contains (spares.outage _ _ _ h)
  | plain h => exact defined_of_isPlain h
  | division unscaled => exact absurd unscaled scaled
  | nonRecoverable _ ih => exact defined_nonRecoverable ih

lemma Error.ArisesIn.defined {u : UseCase} (h : ArisesIn σ u e) : e.Defined := by
  rcases h with arises | ⟨args, source, rfl, arises⟩
  · exact arises.defined scaled spares
  · exact (arises.defined scaled spares).inUseCase u args

end

lemma Report.arises_of_compute_fails {σ : Surroundings} {s : Store} (counted : s.settlements.size < 2 ^ 64)
    {start stop : Instant} {e : Error} {t : Trace} (failed : (compute start stop).exec σ s = ⟨.error (.failed e), t⟩) :
    Arises σ e := by
  rcases resume_bind_eq_error_iff.mp failed with failed | ⟨settled, t₁, hs, failed⟩
  · exact FailsWith.look _ _ _ e t failed
  obtain ⟨-, rfl, rfl⟩ := resume_access_eq_ok_iff.mp hs
  dsimp only at failed
  split at failed
  · cases failed
  rcases resume_bind_eq_error_iff.mp failed with failed | ⟨quotes, t₂, hq, failed⟩
  · exact FailsWith.look _ _ _ e t failed
  obtain ⟨-, rfl, rfl⟩ := resume_access_eq_ok_iff.mp hq
  -- a number of quotes beyond 64 bits might be taken for zero
  have length : ((s.settledWithin start stop).map Prod.snd).length < 2 ^ 64 := by
    rw [List.length_map]
    exact (s.length_settledWithin_le start stop).trans_lt counted
  obtain ⟨e', told, same, -⟩ := resume_lift_eq_error_iff.mp failed
  cases same
  rcases ofQuotes_cases length with ⟨r, figures, -⟩ | ⟨overflow, -⟩
  · cases told.symm.trans figures
  · cases told.symm.trans overflow
    exact .plain rfl

/-- No error tells of a division by zero or of a difference below zero, and a percentage is scaled without a remainder. That
fewer than `2 ^ 64` settlements are counted in a report is no restriction on a store that fits into the memory of a machine. -/
theorem amounts_stay_defined (x : Service) (σ : Surroundings) (s : Store) (valid : σ.settings.validate = .ok ())
    (spares : σ.SparesAmounts) (counted : x.useCase = .report → s.settlements.size < 2 ^ 64) :
    (∀ e t, x.run.exec σ s = ⟨.error (.failed e), t⟩ → ¬ e.contains isUndefined) ∧
      ∀ percentage, ∃ a, Settings.scaledPercentage percentage σ.settings.feeScale = .ok a ∧
        100 * a.toNat = percentage.toNat * σ.settings.feeScale.toNat := by
  obtain ⟨scaled, hundreds⟩ := Settings.feeScale_of_validate valid
  refine ⟨fun e t failed => defined_iff.mp ?_, Settings.scaledPercentage_exact hundreds⟩
  have within {α : Type} {y : Run α} (raises : FailsWith σ (Arises σ) y) (u : UseCase) (args : ErrorArgs) :
      FailsWith σ Defined (mapError (.inUseCase u args) y) :=
    raises.mapError fun e arises => (arises.defined scaled spares).inUseCase u args
  have orWithin {α : Type} {y : Run α} (raises : FailsWith σ (Arises σ) y) (u : UseCase) (args : ErrorArgs) :
      FailsWith σ Defined (mapError (fun e => e.orWithin u args) y) :=
    raises.mapError fun e arises => (arises.defined scaled spares).orWithin u args
  cases x with
  | getQuote request =>
    refine (Quoting.price_raises request).mapError (fun e arises => ?_) _ e t failed
    exact (arises.defined scaled spares).orWithin .getQuote ∅
  | acceptQuote hash signature =>
    refine (Acceptance.accept_raises hash signature).mapError (fun e arises => ?_) _ e t failed
    exact (arises.defined scaled spares).orWithin .acceptQuote _
  | callForUser given => exact orWithin (Payout.pay_raises given) _ _ _ e t failed
  | registerPegin given => exact orWithin (Registration.register_raises given) _ _ _ e t failed
  | recommendValue budget destination data =>
    exact within (Recommendation.compute_raises budget destination data) _ _ _ e t failed
  | addCollateral amount => exact within (Collateral.add_raises amount) _ _ _ e t failed
  | getCollateral =>
    have asked := FailsWith.bind .settings fun settings => FailsWith.inquire (σ := σ) (.collateral settings.provider)
    exact within asked .getCollateral ∅ _ e t failed
  | withdrawCollateral =>
    refine (FailsWith.inquire .withdrawCollateral).mapError (fun e arises => ?_) _ e t failed
    exact (arises.defined scaled spares).withdrawalError.inUseCase _ _
  | expireQuote given => exact orWithin (Expiry.close_raises given) _ _ _ e t failed
  | sweepExpired =>
    obtain ⟨source, rfl, arises⟩ := Expiry.sweep_raises _ e t failed
    exact (arises.defined scaled spares).inUseCase _ _
  | quoteStatus hash =>
    refine within ?_ _ _ _ e t failed
    refine .bind (.look _ _) fun quote => .bind (.require (.plain rfl) _) fun quote => ?_
    refine .bind (.look _ _) fun settlement => .bind (.require (.plain rfl) _) fun settlement => ?_
    exact .bind (.look _ _) fun pricing => .pure _
  | peginReport start stop =>
    obtain ⟨e, halted, rfl⟩ := resume_mapError_eq_failed_iff.mp failed
    exact ((Report.arises_of_compute_fails (counted rfl) halted).defined scaled spares).inUseCase _ _

namespace Sample

def validSettings : Settings :=
  { settings with bitcoinAddress := "2N5muMepJizJE1gR7FbHJU6CD18V3BpNF9p", confirmations := .ofList [(.ofUInt64 1000, 1)] }

def validSurroundings : Surroundings := ⟨⟨fun _ => peers, 0, 1⟩, validSettings, fun _ => false⟩

lemma validSettings_valid : validSettings.validate = .ok () := by
  decide +kernel

lemma validSurroundings_sparesAmounts : validSurroundings.SparesAmounts where
  answer _ q _ := by cases q <;> nofun
  outage _ _ _ := nofun

abbrev scanty : Outcome Recommendation := (recommendValue (.ofUInt64 5) "" .empty).exec validSurroundings .empty

abbrev scantyError : Error :=
  .inUseCase .recommend ∅ (.amountOutOfRange (.ofUInt64 5) (.ofUInt64 21000) (.ofUInt64 1000))

lemma scanty_eq : scanty = ⟨.error (.failed scantyError), scanty.trace⟩ := rfl

end Sample

open Sample in
theorem scanty_budget_is_refused : validSettings.validate = .ok () ∧ validSurroundings.SparesAmounts ∧
    scanty = ⟨.error (.failed scantyError), scanty.trace⟩ ∧ ¬ scantyError.contains isUndefined ∧
    ∃ a, Settings.scaledPercentage 3 validSettings.feeScale = .ok a ∧ 100 * a.toNat = 3 * validSettings.feeScale.toNat := by
  obtain ⟨defined, exact⟩ := amounts_stay_defined (.recommendValue (.ofUInt64 5) "" .empty) validSurroundings .empty
    validSettings_valid validSurroundings_sparesAmounts nofun
  exact ⟨validSettings_valid, validSurroundings_sparesAmounts, scanty_eq, defined scantyError _ scanty_eq, exact 3⟩

end Flyover
