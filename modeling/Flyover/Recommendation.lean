import Flyover.Quoting
/-!
Recommendation: the value whose quote a budget pays for, found by inverting the fees.
-/

namespace Flyover

structure Recommendation where
  value : Wei
  gasFee : Wei
  callFee : Wei
  productFee : Wei
deriving DecidableEq

namespace Recommendation

def zeroAddress : Address := ⟨List.replicate 20 0, rfl⟩

def estimateGasFee (destination : Address) (budget : Wei) (data : CallData) (productFee : Wei) : Run Wei := do
  let productGas ← if productFee = 0 then pure 0
    else Run.ask (.estimateGas (← Run.settings).feeCollector productFee .empty)
  let callGas ← Run.ask (.estimateGas destination budget data)
  let gasPrice ← Run.ask .gasPrice
  let gas ← Quoting.addGas productGas callGas
  (Wei.ofUInt64 gas).mul gasPrice

def valueOf (budget fixedCosts scale scaledProduct scaledCall : Wei) : Except Error Wei := do
  let withProduct ← scale.add scaledProduct
  let divisor ← withProduct.add scaledCall
  let rest ← budget.sub fixedCosts
  rest.mulDiv scale divisor

def compute (budget : Wei) (destination : String) (data : CallData) : Run Recommendation := do
  let settings ← Run.settings
  let destination := (Address.ofText? destination).getD zeroAddress
  let scale := Wei.ofUInt64 settings.feeScale
  let percentage ← Run.ask .productFeePercentage
  let scaledProduct ← Settings.scaledPercentage percentage settings.feeScale
  let scaledCall := settings.scaledFeePercentage settings.feeScale
  let gasFee ← estimateGasFee destination budget data (← budget.mulDiv scaledProduct scale)
  let fixedCosts ← gasFee.add settings.fixedFee
  if budget < fixedCosts then Run.fail (.amountOutOfRange budget fixedCosts settings.maxValue)
  let value ← valueOf budget fixedCosts scale scaledProduct scaledCall
  settings.checkAmount value
  Run.mapError (fun _ => .noLiquidity) (Liquidity.require value)
  Quoting.requireMinimumDeposit value
  let callFee ← Quoting.callFee settings value
  let productFee ← value.mulDiv scaledProduct scale
  return { value, gasFee, callFee, productFee }

end Recommendation

def recommendValue (budget : Wei) (destination : String) (data : CallData) : Run Recommendation :=
  Run.mapError (fun e => e.within .recommend) (Recommendation.compute budget destination data)

end Flyover
