import Flyover.Bitcoin.Address
import Flyover.ConfirmationTable
import Flyover.Signature
/-!
The settings of a provider: who it is, what it charges, and how many confirmations it waits for.
-/

namespace Flyover

structure Settings where
  network : Bitcoin.Network
  chainId : UInt64
  feeCollector : Address
  feeScale : UInt64
  secretKey : SecretKey
  bitcoinAddress : String
  timeForDeposit : UInt32
  callTime : UInt32
  penaltyFee : Wei
  fixedFee : Wei
  feePercentage : Binary64
  minValue : Wei
  maxValue : Wei
  confirmations : ConfirmationTable
deriving DecidableEq

namespace Settings

def provider (s : Settings) : Address := s.secretKey.address

def checkAmount (s : Settings) (amount : Wei) : Except Error Unit :=
  if amount < s.minValue ∨ s.maxValue < amount then .error (.amountOutOfRange amount s.minValue s.maxValue) else .ok ()

def scaledFeePercentage (s : Settings) (scale : UInt64) : Wei :=
  .ofUInt64 (((s.feePercentage.div (.ofNat 100)).mul (.ofNat scale.toNat)).roundToUInt64)

def scaledPercentage (percentage scale : UInt64) : Except Error Wei :=
  (Wei.ofUInt64 percentage).mulDiv (.ofUInt64 scale) (.ofUInt64 100)

def validate (s : Settings) : Except Fault Unit := do
  if s.feeScale = 0 ∨ s.feeScale % 100 ≠ 0 then throw (.feeScale s.feeScale)
  if ¬ Bitcoin.isAddress s.bitcoinAddress s.network then throw (.bitcoinAddress s.bitcoinAddress)
  if s.maxValue < s.minValue then throw (.valueRange s.minValue s.maxValue)
  if s.feePercentage.isNegative then throw (.negativeFee s.feePercentage)
  if s.confirmations.isEmpty then throw .noConfirmations

end Settings

end Flyover
