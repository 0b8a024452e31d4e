import Flyover.Address
import Flyover.CallData
import Flyover.Wei.Checked
/-!
Quotes: the terms of a peg-in that user and provider agree on. A quote never changes once it is stored.
-/

namespace Flyover

/-- The terms of a peg-in. Times are in seconds, `agreedAt` counts them from the Unix epoch. -/
structure Quote where
  federationAddress : String
  bridgeContract : Address
  providerAddress : Address
  userBitcoinAddress : String
  userAddress : Address
  providerBitcoinAddress : String
  callFee : Wei
  penaltyFee : Wei
  destination : Address
  data : CallData
  gasLimit : UInt32
  nonce : Int64
  value : Wei
  agreedAt : UInt32
  timeForDeposit : UInt32
  callTime : UInt32
  confirmations : UInt16
  callOnRegister : Bool
  gasFee : Wei
  productFee : Wei
  chainId : UInt64
deriving DecidableEq

namespace Quote

def total (q : Quote) : Except Error Wei := do
  let sum ← q.value.add q.callFee
  let sum ← sum.add q.productFee
  sum.add q.gasFee

def expireTime (q : Quote) : Nat := q.agreedAt.toNat + q.timeForDeposit.toNat

def isExpiredAt (q : Quote) (now : Int) : Bool := (q.expireTime : Int) < now

def callOverhead : Nat := 180000

def requiredLiquidity (q : Quote) (gasPrice : Wei) : Except Error Wei := do
  let gas := Wei.ofUInt64 (UInt64.ofNat (q.gasLimit.toNat + callOverhead))
  let cost ← gas.mul gasPrice
  cost.add q.value

def decodeHash (s : String) : Except Error (FixedBytes 32) :=
  match Hex.decode (Hex.dropMarkers s) with
  | .error fault => .error (.hex fault)
  | .ok b => match FixedBytes.ofBytes? b with
    | some h => .ok h
    | none => .error (.hashLength b.length)

instance : Json.Encode Quote where
  encode q := .object
    [("fedBtcAddress", Json.encode q.federationAddress), ("lbcAddress", Json.encode q.bridgeContract),
      ("lpRskAddress", Json.encode q.providerAddress), ("btcRefundAddress", Json.encode q.userBitcoinAddress),
      ("rskRefundAddress", Json.encode q.userAddress), ("lpBtcAddress", Json.encode q.providerBitcoinAddress),
      ("callFee", Json.encode q.callFee), ("penaltyFee", Json.encode q.penaltyFee),
      ("contractAddress", Json.encode q.destination), ("data", Json.encode q.data),
      ("gasLimit", Json.encode q.gasLimit), ("nonce", Json.encode q.nonce), ("value", Json.encode q.value),
      ("agreementTimestamp", Json.encode q.agreedAt), ("timeForDeposit", Json.encode q.timeForDeposit),
      ("lpCallTime", Json.encode q.callTime), ("confirmations", Json.encode q.confirmations),
      ("callOnRegister", Json.encode q.callOnRegister), ("gasFee", Json.encode q.gasFee),
      ("productFeeAmount", Json.encode q.productFee), ("chainId", Json.encode q.chainId)]

instance : Json.Decode Quote where
  decode := Json.record ⟨"PeginQuote", 21⟩ do
    return {
      federationAddress := ← Json.field "fedBtcAddress"
      bridgeContract := ← Json.field "lbcAddress"
      providerAddress := ← Json.field "lpRskAddress"
      userBitcoinAddress := ← Json.field "btcRefundAddress"
      userAddress := ← Json.field "rskRefundAddress"
      providerBitcoinAddress := ← Json.field "lpBtcAddress"
      callFee := ← Json.field "callFee"
      penaltyFee := ← Json.field "penaltyFee"
      destination := ← Json.field "contractAddress"
      data := ← Json.field "data"
      gasLimit := ← Json.field "gasLimit"
      nonce := ← Json.field "nonce"
      value := ← Json.field "value"
      agreedAt := ← Json.field "agreementTimestamp"
      timeForDeposit := ← Json.field "timeForDeposit"
      callTime := ← Json.field "lpCallTime"
      confirmations := ← Json.field "confirmations"
      callOnRegister := ← Json.field "callOnRegister"
      gasFee := ← Json.field "gasFee"
      productFee := ← Json.field "productFeeAmount"
      chainId := ← Json.field "chainId" }

end Quote

end Flyover
