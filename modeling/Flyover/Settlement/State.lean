import Flyover.Json.Record
/-!
The states that the settlement of an accepted quote passes through, and the moves between them.
-/

namespace Flyover

inductive Settlement.State
  | waitingForDeposit
  | waitingForDepositConfirmations
  | timeForDepositElapsed
  | callForUserSucceeded
  | callForUserFailed
  | registerPeginSucceeded
  | registerPeginFailed
deriving DecidableEq

namespace Settlement.State

def all : List State :=
  [waitingForDeposit, waitingForDepositConfirmations, timeForDepositElapsed, callForUserSucceeded, callForUserFailed,
    registerPeginSucceeded, registerPeginFailed]

def locking : List State := [waitingForDeposit, waitingForDepositConfirmations]

def canMove : State → State → Bool
  | waitingForDeposit, waitingForDepositConfirmations => true
  | waitingForDeposit, timeForDepositElapsed => true
  | waitingForDepositConfirmations, callForUserSucceeded => true
  | waitingForDepositConfirmations, callForUserFailed => true
  | callForUserSucceeded, registerPeginSucceeded => true
  | callForUserSucceeded, registerPeginFailed => true
  | _, _ => false

def isTerminal : State → Bool
  | timeForDepositElapsed | callForUserFailed | registerPeginSucceeded | registerPeginFailed => true
  | waitingForDeposit | waitingForDepositConfirmations | callForUserSucceeded => false

def name : State → String
  | waitingForDeposit => "WaitingForDeposit"
  | waitingForDepositConfirmations => "WaitingForDepositConfirmations"
  | timeForDepositElapsed => "TimeForDepositElapsed"
  | callForUserSucceeded => "CallForUserSucceeded"
  | callForUserFailed => "CallForUserFailed"
  | registerPeginSucceeded => "RegisterPegInSucceeded"
  | registerPeginFailed => "RegisterPegInFailed"

def ofName? (s : String) : Option State := all.find? fun t => t.name = s

theorem isTerminal_iff {s : State} : s.isTerminal ↔ ∀ t, s.canMove t = false := by
  constructor
  · intro h t
    cases s <;> cases t <;> first | rfl | exact absurd h (by decide)
  · intro h
    cases s <;> first
      | rfl
      | exact absurd (h waitingForDepositConfirmations) (by decide)
      | exact absurd (h callForUserSucceeded) (by decide)
      | exact absurd (h registerPeginSucceeded) (by decide)

@[simp] theorem ofName?_name (s : State) : ofName? s.name = some s := by cases s <;> decide

instance : Json.Encode State := ⟨fun s => .string s.name⟩

def decodeName (s : String) : Except Json.Fault State :=
  match ofName? s with
  | some t => .ok t
  | none => .error (.unknownVariant s (all.map name))

instance : Json.Decode State where
  decode
    | .string s => decodeName s
    | .object [(k, v)] => do
      let t ← decodeName k
      match v with
      | .null => return t
      | v => throw (.wrongType v.shape "unit")
    | .object _ => .error (.wrongValue .object "map with a single key")
    | j => .error (.wrongType j.shape "string or map")

end Settlement.State

end Flyover
