import Flyover.Collateral
import Flyover.Proofs.Endings.Recommendation
import Flyover.Proofs.Figures
import Flyover.Status

/-! The use cases that store nothing. -/

namespace Flyover

open Run Trace

inductive Inquiry
  | recommendValue (budget : Wei) (destination : String) (data : CallData)
  | quoteStatus (hash : String)
  | peginReport (start stop : Instant)
  | addCollateral (amount : Wei)
  | getCollateral
  | withdrawCollateral

namespace Inquiry

def run : Inquiry → Run Unit
  | recommendValue budget destination data => discard (Flyover.recommendValue budget destination data)
  | quoteStatus hash => discard (Flyover.quoteStatus hash)
  | peginReport start stop => discard (Flyover.peginReport start stop)
  | addCollateral amount => discard (Flyover.addCollateral amount)
  | getCollateral => discard Flyover.getCollateral
  | withdrawCollateral => Flyover.withdrawCollateral

lemma recommendValue_inquires (budget : Wei) (destination : String) (data : CallData) :
    (Flyover.recommendValue budget destination data).Keeps Trace.Asks := by
  refine .mapError (.bind .settings fun settings => ?_)
  refine .bind (.inquire rfl) fun percentage => ?_
  refine .bind (.lift _) fun scaledProduct => ?_
  refine .bind (.lift _) fun productFee => ?_
  refine .bind (Recommendation.estimateGasFee_inquires _ _ _ _) fun gasFee => ?_
  refine .bind (.lift _) fun fixedCosts => .ite (.bind (.fail _) fun _ => ?_) ?_
  all_goals
    refine .bind (.lift _) fun value => ?_
    refine .bind (.lift _) fun _ => ?_
    refine .bind (.mapError (Liquidity.require_inquires _)) fun _ => ?_
    refine .bind (Quoting.requireMinimumDeposit_inquires _) fun _ => ?_
    refine .bind (.lift _) fun callFee => ?_
    exact .bind (.lift _) fun fee => .pure _

lemma quoteStatus_inquires (hash : String) : (Flyover.quoteStatus hash).Keeps Trace.Asks := by
  refine .mapError (.bind (.look rfl) fun foundQuote => ?_)
  refine .bind (.require _ _) fun quote => ?_
  refine .bind (.look rfl) fun foundSettlement => ?_
  refine .bind (.require _ _) fun settlement => ?_
  exact .bind (.look rfl) fun pricing => .pure _

lemma addCollateral_inquires (amount : Wei) : (Flyover.addCollateral amount).Keeps Trace.Asks := by
  refine .mapError (.bind .settings fun settings => ?_)
  refine .bind (.inquire rfl) fun minimum => ?_
  refine .bind (.inquire rfl) fun current => ?_
  refine .bind (.lift _) fun collateral => .ite (.bind (.fail _) fun _ => ?_) ?_
  all_goals exact .bind (.inquire rfl) fun _ => .pure _

lemma getCollateral_inquires : Flyover.getCollateral.Keeps Trace.Asks :=
  .mapError (.bind .settings fun _ => .inquire rfl)

lemma run_inquires (i : Inquiry) : i.run.Keeps Trace.Asks := by
  have discarded {α : Type} {x : Run α} (hx : x.Keeps Trace.Asks) : (discard x).Keeps Trace.Asks := by
    intro σ t
    rw [trace_discard]
    exact hx σ t
  cases i with
  | recommendValue budget destination data => exact discarded (recommendValue_inquires budget destination data)
  | quoteStatus hash => exact discarded (quoteStatus_inquires hash)
  | peginReport start stop => exact discarded ((Report.peginReport_looks start stop).mono fun _ _ looked => looked.asks)
  | addCollateral amount => exact discarded (addCollateral_inquires amount)
  | getCollateral => exact discarded getCollateral_inquires
  | withdrawCollateral => exact .mapError (.inquire rfl)

lemma store_run (i : Inquiry) (σ : Surroundings) (s : Store) : (i.run.exec σ s).trace.store = s :=
  (i.run_inquires σ (.start s)).store_eq

end Inquiry

end Flyover
