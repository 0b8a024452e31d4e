import Flyover.Address.Checked
import Flyover.Liquidity
/-!
Quoting: the fees for a peg-in under the settings of the provider, and the quote that is stored under the hash which the
contract computes.
-/

namespace Flyover

structure QuoteRequest where
  destination : String
  data : CallData
  value : Wei
  userAddress : String
  userBitcoinAddress : String
deriving DecidableEq

namespace Quoting

def requireMinimumDeposit (value : Wei) : Run Unit := do
  let minimum ← Run.ask .minimumDeposit
  if value < minimum then Run.fail (.belowMinimum value minimum)

def addGas (a b : UInt64) : Except Error UInt64 :=
  if a.toNat + b.toNat < UInt64.size then .ok (a + b) else .error (.weiOverflow "gas addition")

def gasLimit (gas : UInt64) : Except Error UInt32 :=
  if gas.toNat < UInt32.size then .ok gas.toUInt32 else .error (.conversion "gas limit")

def timestamp (now : Int) : Except Error UInt32 :=
  if 0 ≤ now ∧ now < UInt32.size then .ok (UInt32.ofNat now.toNat) else .error (.conversion "agreement timestamp")

def callFee (s : Settings) (value : Wei) : Except Error Wei := do
  let proportional ← value.mulDiv (s.scaledFeePercentage s.feeScale) (.ofUInt64 s.feeScale)
  proportional.add s.fixedFee

def checkRequest (r : QuoteRequest) : Run (Address × Address) := do
  let about (name value : String) (e : Error) : Error := .inUseCase .getQuote (.single name value) e
  Run.mapError (about "btcAddress" r.userBitcoinAddress) (Run.ask (.validateBitcoinAddress r.userBitcoinAddress))
  let user ← Run.mapError (about "rskAddress" r.userAddress) (Address.parse r.userAddress)
  let destination ← Run.mapError (about "rskAddress" r.destination) (Address.parse r.destination)
  (← Run.settings).checkAmount r.value
  return (destination, user)

def productFee (value : Wei) : Run (Wei × UInt64) := do
  let percentage ← Run.ask .productFeePercentage
  if percentage = 0 then return (0, 0)
  let fee ← value.mulDiv (.ofUInt64 percentage) (.ofUInt64 100)
  let gas ← Run.ask (.estimateGas (← Run.settings).feeCollector fee .empty)
  return (fee, gas)

def federationAddress : Run String := do
  let address ← Run.ask .federationAddress
  if Bitcoin.isScriptHash address (← Run.settings).network then return address
  else Run.fail (.federationNotP2sh address)

def price (r : QuoteRequest) : Run PricedQuote := do
  let settings ← Run.settings
  let (destination, user) ← checkRequest r
  let callGas ← Run.ask (.estimateGas destination r.value r.data)
  let gasPrice ← Run.ask .gasPrice
  let (productFee, productGas) ← productFee r.value
  let federation ← federationAddress
  let totalGas ← addGas callGas productGas
  let gasLimit ← gasLimit totalGas
  let gasFee ← (Wei.ofUInt64 totalGas).mul gasPrice
  let callFee ← callFee settings r.value
  let agreedAt ← timestamp (← Run.now)
  let quote : Quote := {
    federationAddress := federation
    bridgeContract := ← Run.contractAddress
    providerAddress := settings.provider
    userBitcoinAddress := r.userBitcoinAddress
    userAddress := user
    providerBitcoinAddress := settings.bitcoinAddress
    callFee
    penaltyFee := settings.penaltyFee
    destination
    data := r.data
    gasLimit
    nonce := ← Run.nonce
    value := r.value
    agreedAt
    timeForDeposit := settings.timeForDeposit
    callTime := settings.callTime
    confirmations := settings.confirmations.forValue r.value
    callOnRegister := false
    gasFee
    productFee
    chainId := settings.chainId }
  requireMinimumDeposit (← quote.total)
  let hash ← Run.ask (.hashQuote quote)
  let priced : PricedQuote := ⟨hash, quote, ⟨gasPrice, settings.feePercentage, settings.fixedFee⟩⟩
  Run.putQuote priced
  return priced

end Quoting

def getQuote (r : QuoteRequest) : Run PricedQuote :=
  Run.mapError (fun e => e.orWithin .getQuote ∅) (Quoting.price r)

end Flyover
