import Flyover.Deposit
import Flyover.Event
import Flyover.Federation
import Flyover.Instant
/-!
What a use case asks of its peers: the Bitcoin network, the Rootstock network, the bridge, the liquidity bridge contract
and the store. Peers answer as they like.
-/

namespace Flyover

structure Derivation where
  federation : Federation
  bridgeContract : Address
  userAddress : Bytes
  providerAddress : Bytes
  quoteHash : FixedBytes 32
deriving DecidableEq

structure DepositProof where
  signature : Bytes
  transaction : Bytes
  merkleTree : Bytes
  height : UInt64
deriving DecidableEq

inductive Question
  | validateBitcoinAddress (address : String)
  | decodeBitcoinAddress (address : String)
  | deposit (txid : Txid)
  | blockHeight (txid : Txid)
  | rawTransaction (txid : Txid)
  | merkleTree (txid : Txid)
  | estimateGas (target : Address) (value : Wei) (data : CallData)
  | gasPrice
  | balance (account : Address)
  | federation
  | depositAddress (derivation : Derivation)
  | federationAddress
  | minimumDeposit
  | requiredConfirmations
  | productFeePercentage
  | hashQuote (quote : Quote)
  | callForUser (value : Wei) (gasLimit : UInt64) (quote : Quote)
  | registerPegin (proof : DepositProof) (quote : Quote)
  | collateral (account : Address)
  | minimumCollateral
  | addCollateral (amount : Wei)
  | withdrawCollateral
  | contractBalance (account : Address)
deriving DecidableEq

@[reducible] def Question.Answer : Question → Type
  | validateBitcoinAddress _ | addCollateral _ | withdrawCollateral => Unit
  | decodeBitcoinAddress _ | rawTransaction _ | merkleTree _ => Bytes
  | deposit _ => Deposit
  | blockHeight _ | estimateGas .. | requiredConfirmations | productFeePercentage => UInt64
  | gasPrice | balance _ | minimumDeposit | collateral _ | minimumCollateral | contractBalance _ => Wei
  | federation => Federation
  | depositAddress _ | federationAddress | hashQuote _ => String
  | callForUser .. | registerPegin .. => Receipt

inductive Access
  | quote (hash : String)
  | settlement (hash : String)
  | pricing (hash : String)
  | settlementsOf (owner : Address) (states : List Settlement.State)
  | settlementsIn (states : List Settlement.State)
  | quotesWithin (hashes : List String) (start stop : Instant)
  | account (address : Address)
  | putAccount (address : Address)
  | putQuote (hash : String)
  | insertSettlement (hash : String)
  | updateSettlement (hash : String)
deriving DecidableEq

inductive Call
  | question (q : Question)
  | contractAddress
  | access (a : Access)
deriving DecidableEq

/-- How the peers answer: the address of the contract, the answer to each question, and the accesses that the store
fails. -/
structure Peers where
  contractAddress : Address
  answer : (q : Question) → Except Error q.Answer
  outage : Access → Option Error

end Flyover
