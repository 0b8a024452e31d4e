import Flyover.Call
import Flyover.Settings
import Flyover.Store
/-!
Runs of use cases: computations that call peers, read and change the store, publish events and wait for locks. All that a
run can depend on is in its surroundings and its store.
-/

namespace Flyover

/-- The locks: one over accepting quotes, one over spending from the wallet of the provider. -/
inductive Lock
  | liquidity
  | wallet
deriving DecidableEq

namespace Lock

def all : List Lock := [liquidity, wallet]

def name : Lock → String
  | liquidity => "pegin-liquidity"
  | wallet => "rsk-wallet"

def ofName? (s : String) : Option Lock := all.find? fun l => l.name = s

@[simp] theorem ofName?_name (l : Lock) : ofName? l.name = some l := by cases l <;> decide

end Lock

/-- What a run meets outside the provider: the peers, the time in seconds from the Unix epoch, and a random number from one
to `2 ^ 63 - 2`. The peers may answer otherwise after each call. -/
structure Circumstances where
  peers : List Call → Peers
  now : Int
  nonce : Int64

structure Surroundings extends Circumstances where
  settings : Settings
  held : Lock → Bool

structure Trace where
  store : Store
  calls : List Call
  events : List Event
deriving DecidableEq

namespace Trace

def start (store : Store) : Trace := ⟨store, [], []⟩

def noting (t : Trace) (c : Call) : Trace := { t with calls := t.calls ++ [c] }

end Trace

inductive Halt
  | failed (error : Error)
  | waiting (lock : Lock)

structure Outcome (α : Type) where
  result : Except Halt α
  trace : Trace

structure Run (α : Type) where
  resume : Surroundings → Trace → Outcome α

namespace Run

variable {α : Type}

/-- A run that halts ends there, and what has happened is kept. -/
instance : Monad Run where
  pure a := ⟨fun _ t => ⟨.ok a, t⟩⟩
  bind x f := ⟨fun s t =>
    match x.resume s t with
    | ⟨.ok a, t'⟩ => (f a).resume s t'
    | ⟨.error h, t'⟩ => ⟨.error h, t'⟩⟩

def exec (x : Run α) (s : Surroundings) (store : Store) : Outcome α := x.resume s (.start store)

def fail (e : Error) : Run α := ⟨fun _ t => ⟨.error (.failed e), t⟩⟩

def ofExcept : Except Error α → Run α
  | .ok a => pure a
  | .error e => fail e

instance : MonadLift (Except Error) Run := ⟨ofExcept⟩

def mapError (f : Error → Error) (x : Run α) : Run α := ⟨fun s t =>
  match x.resume s t with
  | ⟨.error (.failed e), t'⟩ => ⟨.error (.failed (f e)), t'⟩
  | o => o⟩

def attempt (x : Run α) : Run (Except Error α) := ⟨fun s t =>
  match x.resume s t with
  | ⟨.ok a, t'⟩ => ⟨.ok (.ok a), t'⟩
  | ⟨.error (.failed e), t'⟩ => ⟨.ok (.error e), t'⟩
  | ⟨.error (.waiting l), t'⟩ => ⟨.error (.waiting l), t'⟩⟩

def require (e : Error) : Option α → Run α
  | some a => pure a
  | none => fail e

def check (condition : Bool) (e : Error) : Run Unit := if condition then pure () else fail e

def settings : Run Settings := ⟨fun s t => ⟨.ok s.settings, t⟩⟩

def now : Run Int := ⟨fun s t => ⟨.ok s.now, t⟩⟩

def nonce : Run Int64 := ⟨fun s t => ⟨.ok s.nonce, t⟩⟩

def call (c : Call) : Run Peers := ⟨fun s t => ⟨.ok (s.peers t.calls), t.noting c⟩⟩

def ask (q : Question) : Run q.Answer := do
  let peers ← call (.question q)
  ofExcept (peers.answer q)

def contractAddress : Run Address := do return (← call .contractAddress).contractAddress

def store : Run Store := ⟨fun _ t => ⟨.ok t.store, t⟩⟩

def access (a : Access) (find : Store → α) : Run α := do
  let peers ← call (.access a)
  match peers.outage a with
  | some e => fail e
  | none => return find (← store)

def change (a : Access) (f : Store → Except Error Store) : Run Unit := do
  let store ← access a id
  let store ← ofExcept (f store)
  ⟨fun _ t => ⟨.ok (), { t with store }⟩⟩

def publish (e : Event) : Run Unit := ⟨fun _ t => ⟨.ok (), { t with events := t.events ++ [e] }⟩⟩

def acquire (lock : Lock) : Run Unit := ⟨fun s t => ⟨if s.held lock then .error (.waiting lock) else .ok (), t⟩⟩

def findQuote (hash : String) : Run (Option Quote) := access (.quote hash) fun s => s.quotes[hash]?

def findSettlement (hash : String) : Run (Option Settlement) := access (.settlement hash) fun s => s.settlements[hash]?

def findPricing (hash : String) : Run Pricing := access (.pricing hash) fun s => s.pricingOf hash

def findAccount (address : Address) : Run (Option (Signed TrustedAccount)) :=
  access (.account address) fun s => s.accounts[address]?

def settlementsIn (states : List Settlement.State) : Run (List Settlement) :=
  access (.settlementsIn states) fun s => s.settlementsIn states

def settlementsOf (owner : Address) (states : List Settlement.State) : Run (List Settlement) :=
  access (.settlementsOf owner states) fun s => s.settlementsOf owner states

def quotesWithin (hashes : List String) (start stop : Instant) : Run (List (String × Quote)) :=
  access (.quotesWithin hashes start stop) fun s => s.quotesWithin hashes start stop

def putQuote (p : PricedQuote) : Run Unit := change (.putQuote p.hash) fun s => .ok (s.putQuote p)

def insertSettlement (t : Settlement) : Run Unit := change (.insertSettlement t.quoteHash) fun s => s.insertSettlement t

def updateSettlement (t : Settlement) : Run Unit := change (.updateSettlement t.quoteHash) fun s => s.updateSettlement t

def putAccount (a : Signed TrustedAccount) : Run Unit :=
  change (.putAccount a.value.address) fun s => .ok (s.putAccount a)

end Run

end Flyover
