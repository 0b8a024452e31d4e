import Flyover.Receipt
import Flyover.Settings.Fault
import Flyover.Settlement.State
import Std.Data.ExtTreeMap
/-!
The errors of the provider: what went wrong, in which use case, with which arguments, and what was wrong beside it. An
error is a tree, and the questions about it are answered by a walk of the whole tree.
-/

namespace Flyover

inductive UseCase
  | getQuote
  | acceptQuote
  | callForUser
  | registerPegin
  | recommend
  | addCollateral
  | getCollateral
  | withdrawCollateral
  | expireQuote
  | quoteStatus
  | report
deriving DecidableEq

def UseCase.name : UseCase → String
  | getQuote => "GetPeginQuote"
  | acceptQuote => "AcceptPeginQuote"
  | callForUser => "CallForUser"
  | registerPegin => "RegisterPegin"
  | recommend => "RecommendedPegin"
  | addCollateral => "AddCollateral"
  | getCollateral => "GetCollateral"
  | withdrawCollateral => "WithdrawCollateral"
  | expireQuote => "ExpiredPeginQuote"
  | quoteStatus => "PeginQuoteStatus"
  | report => "GetPeginReport"

namespace UseCase

def all : List UseCase :=
  [getQuote, acceptQuote, callForUser, registerPegin, recommend, addCollateral, getCollateral, withdrawCollateral,
    expireQuote, quoteStatus, report]

def ofName? (s : String) : Option UseCase := all.find? fun u => u.name = s

@[simp] theorem ofName?_name (u : UseCase) : ofName? u.name = some u := by cases u <;> decide

end UseCase

abbrev ErrorArgs := Std.ExtTreeMap String String

namespace ErrorArgs

def single (name value : String) : ErrorArgs := (∅ : ErrorArgs).insert name value

def suffix (args : ErrorArgs) : String :=
  if args.isEmpty then ""
  else ". Args: " ++ Json.text (.object (args.toList.map fun a => (a.1, .string a.2)))

end ErrorArgs

inductive SignatureFault
  | secretKey
  | signature
  | recoveryId
deriving DecidableEq

def SignatureFault.message : SignatureFault → String
  | secretKey => Settings.keyRangeMessage
  | signature => "malformed signature"
  | recoveryId => "bad recovery id"

inductive Error
  | quoteNotFound
  | quoteNotAccepted
  | expiredQuote
  | noLiquidity
  | lockingCapExceeded (requested cap : Wei)
  | insufficientAmount (sent required : Wei)
  | notEnoughConfirmations (actual required : UInt64)
  | wrongState (state : Settlement.State)
  | illegalState (detail : String)
  | unsupportedAddress (address : String)
  | unsupportedBitcoinAddress (address : String)
  | belowMinimum (value minimum : Wei)
  | amountOutOfRange (amount min max : Wei)
  | providerNotResigned
  | waitingForBridge
  | accountNotFound (address : String)
  | accountTampered (address : String)
  | inUseCase (useCase : UseCase) (args : ErrorArgs) (source : Error)
  | nonRecoverable (errors : List Error)
  | bitcoinNetwork (detail : String)
  | rootstockNetwork (detail : String)
  | contractReverted (reason : String) (receipt : Option Receipt)
  | storage (detail : String)
  | hex (fault : Hex.Fault)
  | signature (fault : SignatureFault)
  | signatureLength (length : Nat)
  | hashLength (length : Nat)
  | json (fault : Json.Fault)
  | weiOverflow (operation : String)
  | malformedWei (text : String)
  | conversion (what : String)
  | federationNotP2sh (address : String)
  | configuration (fault : Settings.Fault)
  | noSubscribers

namespace Error

instance : Inhabited Error := ⟨noSubscribers⟩

mutual

def message : Error → String
  | quoteNotFound => "quote not found"
  | quoteNotAccepted => "quote not accepted"
  | expiredQuote => "expired quote"
  | noLiquidity => "not enough liquidity"
  | lockingCapExceeded requested cap => "locking cap exceeded: " ++ requested.text ++ " > " ++ cap.text
  | insufficientAmount sent required => "insufficient amount: " ++ sent.text ++ " < " ++ required.text
  | notEnoughConfirmations actual required =>
    "not enough confirmations for transaction: " ++ Text.numeral actual.toNat ++ " < " ++ Text.numeral required.toNat
  | wrongState state => "quote with wrong state: " ++ state.name
  | illegalState detail => "illegal quote state: " ++ detail
  | unsupportedAddress address => "rsk address not supported: " ++ address
  | unsupportedBitcoinAddress address => "btc address not supported: " ++ address
  | belowMinimum value minimum =>
    "requested amount below bridge's min transaction value: " ++ value.text ++ " < " ++ minimum.text
  | amountOutOfRange amount min max =>
    "amount out of range: " ++ amount.text ++ " not in [" ++ min.text ++ ", " ++ max.text ++ "]"
  | providerNotResigned => "provider hasn't completed resignation process"
  | waitingForBridge => "waiting for rootstock bridge"
  | accountNotFound address => "trusted account not found: " ++ address
  | accountTampered address => "trusted account " ++ address ++ " failed its integrity check"
  | inUseCase useCase args source => useCase.name ++ ": " ++ source.message ++ args.suffix
  | nonRecoverable errors => "non recoverable: " ++ String.intercalate "; " (messages errors)
  | bitcoinNetwork detail => "bitcoin network error: " ++ detail
  | rootstockNetwork detail => "rootstock rpc error: " ++ detail
  | contractReverted reason _ => "contract call reverted: " ++ reason
  | storage detail => "storage error: " ++ detail
  | hex fault => "could not decode hex: " ++ fault.message
  | signature fault => "secp256k1 error: " ++ fault.message
  | signatureLength n => "invalid signature length, expected 65 bytes, got " ++ Text.numeral n
  | hashLength n => "invalid hash length, expected 32 bytes, got " ++ Text.numeral n
  | json fault => "json error: " ++ fault.message
  | weiOverflow operation => "wei arithmetic overflow during " ++ operation
  | malformedWei text => Wei.malformedMessage text
  | conversion what => "could not convert " ++ what ++ " into the target type"
  | federationNotP2sh address => "only P2SH addresses are supported for federation address: " ++ address
  | configuration fault => "configuration error: " ++ fault.message
  | noSubscribers => "no subscribers for the application event channel"

def messages : List Error → List String
  | [] => []
  | e :: es => e.message :: messages es

end

def within (e : Error) (useCase : UseCase) : Error := inUseCase useCase ∅ e

def orWithin (e : Error) (useCase : UseCase) (args : ErrorArgs) : Error :=
  match e with
  | inUseCase .. => e
  | _ => inUseCase useCase args e

mutual

def contains (condition : Error → Bool) : Error → Bool
  | inUseCase useCase args source => condition (inUseCase useCase args source) || source.contains condition
  | nonRecoverable errors => condition (nonRecoverable errors) || anyContains condition errors
  | e => condition e

def anyContains (condition : Error → Bool) : List Error → Bool
  | [] => false
  | e :: es => e.contains condition || anyContains condition es

end

/-- Whether the views on and off the chain may disagree, so that an operator has to look into it. -/
def isNonRecoverable (e : Error) : Bool :=
  e.contains fun
    | nonRecoverable _ => true
    | _ => false

def isWaitingForBridge (e : Error) : Bool :=
  e.contains fun
    | waitingForBridge => true
    | _ => false

def useCase? : Error → Option UseCase
  | inUseCase useCase _ _ => some useCase
  | _ => none

mutual

def attemptedReceipt? : Error → Option Receipt
  | contractReverted _ receipt => receipt
  | inUseCase _ _ source => source.attemptedReceipt?
  | nonRecoverable errors => firstReceipt? errors
  | _ => none

def firstReceipt? : List Error → Option Receipt
  | [] => none
  | e :: es => e.attemptedReceipt?.or (firstReceipt? es)

end

end Error

end Flyover
