import Flyover.Liquidity
/-!
Acceptance: the provider commits itself to a quote. It locks the liquidity of the quote, derives the address of the deposit
and signs the hash.
-/

namespace Flyover

structure Acceptance where
  signature : String
  depositAddress : String
deriving DecidableEq

namespace Acceptance

def trustedAccount (hash signature : String) : Run TrustedAccount := do
  let address ← Signature.recoverSignerText hash signature
  let account ← (← Run.findAccount address) |> Run.require (.accountNotFound address.text)
  Run.check account.isIntact (.accountTampered address.text)
  return account.value

def checkCapAs (listed : Store → List Settlement) (account : TrustedAccount) (quote : Quote) : Run Unit := do
  let settlements ← Run.access (.settlementsOf account.address Settlement.State.locking) listed
  let locked ← Liquidity.locked settlements
  let withValue ← locked.add quote.value
  let requested ← withValue.add quote.gasFee
  if account.cap < requested then Run.fail (.lockingCapExceeded requested account.cap)

def checkCap (account : TrustedAccount) (quote : Quote) : Run Unit :=
  checkCapAs (fun s => s.settlementsOf account.address Settlement.State.locking) account quote

def depositAddressOf (hash : String) (quote : Quote) : Run String := do
  let quoteHash ← Quote.decodeHash hash
  let userAddress ← Run.ask (.decodeBitcoinAddress quote.userBitcoinAddress)
  let providerAddress ← Run.ask (.decodeBitcoinAddress quote.providerBitcoinAddress)
  let federation ← Run.ask .federation
  let bridgeContract ← Run.contractAddress
  Run.ask (.depositAddress { federation, bridgeContract, userAddress, providerAddress, quoteHash })

def commit (hash : String) (quote : Quote) (account : Option TrustedAccount) : Run Acceptance := do
  if let some account := account then checkCap account quote
  let depositAddress ← depositAddressOf hash quote
  let gasPrice ← Run.ask .gasPrice
  let requiredLiquidity ← quote.requiredLiquidity gasPrice
  Run.mapError (.inUseCase .acceptQuote ((ErrorArgs.single "quoteHash" hash).insert "amount" requiredLiquidity.text))
    (Liquidity.require requiredLiquidity)
  let signature ← (← Run.settings).secretKey.signQuoteHash hash
  let settlement : Settlement := {
    quoteHash := hash
    depositAddress
    signature
    requiredLiquidity
    state := .waitingForDeposit
    deposit := none
    callForUser := .none
    registerPegin := .none
    owner := account.map fun a => a.address }
  Run.insertSettlement settlement
  Run.publish (.accepted quote settlement)
  return { signature, depositAddress }

def accept (hash : String) (signature : Option String) : Run Acceptance := do
  let quote ← (← Run.findQuote hash) |> Run.require .quoteNotFound
  Run.check (!quote.isExpiredAt (← Run.now)) .expiredQuote
  let account ← signature.mapM (trustedAccount hash)
  Run.acquire .liquidity
  match ← Run.findSettlement hash with
  | some s => return { signature := s.signature, depositAddress := s.depositAddress }
  | none => commit hash quote account

end Acceptance

def acceptQuote (hash : String) (signature : Option String) : Run Acceptance :=
  Run.mapError (fun e => e.orWithin .acceptQuote (.single "quoteHash" hash)) (Acceptance.accept hash signature)

end Flyover
