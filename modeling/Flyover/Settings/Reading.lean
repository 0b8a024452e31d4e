import Flyover.Binary64.Text
import Flyover.Settings
import Flyover.Settings.Value
/-!
Settings read from configuration values. Whole numbers are also read from text, truth values and real numbers, and texts
from all of these; faults of a conversion name the key and the source.
-/

namespace Flyover.Settings

def Value.conversionText : Value → String
  | scalar _ .nil => "unit value"
  | scalar _ (.bool b) => "boolean `" ++ (if b then "true" else "false") ++ "`"
  | scalar _ (.int i) => "64-bit integer `" ++ Text.signedNumeral i ++ "`"
  | scalar _ (.word n) => "64-bit unsigned integer `" ++ Text.numeral n.toNat ++ "`"
  | scalar _ (.real x) => "floating point `" ++ x.text ++ "`"
  | scalar _ (.text s) => "string " ++ Text.quoted s
  | table .. => "map"
  | list .. => "sequence"

def Value.shapeText : Value → String
  | scalar _ (.int i) => "integer `" ++ Text.signedNumeral i ++ "`"
  | scalar _ (.word n) => "integer `" ++ Text.numeral n.toNat ++ "`"
  | scalar _ (.real x) => "floating point `" ++ x.pointedText ++ "`"
  | v => v.conversionText

def Value.mismatch (v : Value) (expected : String) : Fault := .conversion v.conversionText expected none v.origin

def joinKey (step : String) : Option String → String
  | none => step
  | some rest => if rest.toList.head? = some '[' then step ++ rest else step ++ "." ++ rest

def Fault.under (step : String) : Fault → Fault
  | conversion found expected key origin => conversion found expected (some (joinKey step key)) origin
  | e => e

def truthWord? (s : String) : Option Bool :=
  let w := Text.lower s
  if w = "true" || w = "on" || w = "yes" then some true
  else if w = "false" || w = "off" || w = "no" then some false
  else none

def unsigned? (s : String) : Option UInt64 :=
  let digits := match s.toList with
    | '+' :: cs => cs
    | cs => cs
  match Text.natural? digits with
  | some n => if n < UInt64.size then some (UInt64.ofNat n) else none
  | none => none

def Value.toUInt64 (v : Value) : Except Fault UInt64 :=
  match v with
  | scalar _ (.word n) => .ok n
  | scalar _ (.int i) =>
    if 0 ≤ i then .ok (UInt64.ofNat i.toNat) else .error (v.mismatch "an unsigned 64 bit or less integer")
  | scalar _ (.text s) =>
    match truthWord? s, unsigned? s with
    | some b, _ => .ok (if b then 1 else 0)
    | none, some n => .ok n
    | none, none => .error (v.mismatch "an integer")
  | scalar _ (.bool b) => .ok (if b then 1 else 0)
  | scalar _ (.real x) => .ok x.roundToUInt64
  | _ => .error (v.mismatch "an integer")

def Value.toBits (bits : Nat) (v : Value) : Except Fault Nat := do
  let n ← v.toUInt64
  if n.toNat < Nat.pow 2 bits then return n.toNat
  else throw (.conversion ("64-bit unsigned integer `" ++ Text.numeral n.toNat ++ "`")
    ("an unsigned " ++ Text.numeral bits ++ " bit integer") none none)

def Value.toReal (v : Value) : Except Fault Binary64 :=
  match v with
  | scalar _ (.real x) => .ok x
  | scalar _ (.text s) =>
    match truthWord? s, Binary64.ofText? s with
    | some b, _ => .ok (.ofNat (if b then 1 else 0))
    | none, some x => .ok x
    | none, none => .error (v.mismatch "a floating point")
  | scalar _ (.int i) => .ok (.nearest (i < 0) i.natAbs 1)
  | scalar _ (.word n) => .ok (.ofNat n.toNat)
  | scalar _ (.bool b) => .ok (.ofNat (if b then 1 else 0))
  | _ => .error (v.mismatch "a floating point")

def Value.toText (v : Value) : Except Fault String :=
  match v with
  | scalar _ (.text s) => .ok s
  | scalar _ (.bool b) => .ok (if b then "true" else "false")
  | scalar _ (.int i) => .ok (Text.signedNumeral i)
  | scalar _ (.word n) => .ok (Text.numeral n.toNat)
  | scalar _ (.real x) => .ok x.text
  | _ => .error (v.mismatch "a string")

def amountOfText (s : String) : Except Fault Wei :=
  match Wei.ofText? s with
  | some a => .ok a
  | none => .error (.malformedAmount s)

def Value.toWei (v : Value) : Except Fault Wei :=
  match v with
  | scalar _ (.word n) => .ok (.ofUInt64 n)
  | scalar _ (.int i) => if 0 ≤ i then .ok (.ofUInt64 (UInt64.ofNat i.toNat)) else .error (.negativeAmount i)
  | scalar _ (.text s) => amountOfText s
  | v => .error (.wrongType v.shapeText "a non-negative integer or a decimal string")

def Value.toAddress (v : Value) : Except Fault Address := do
  let s ← v.toText
  match Address.ofText? s with
  | some a => return a
  | none => throw (.accountAddress s)

def Value.toSecretKey (v : Value) : Except Fault SecretKey := do
  let s := Hex.dropMarkers (← v.toText)
  if s.utf8ByteSize ≠ 64 then throw (.secretKey (.length s.utf8ByteSize))
  match Hex.decode s with
  | .error e => throw (.secretKey (.digits e))
  | .ok b => match SecretKey.ofBytes? b with
    | some k => return k
    | none => throw (.secretKey .range)

def networkOfName (s : String) : Except Fault Bitcoin.Network :=
  let w := Text.lower s
  if w = "mainnet" then .ok .mainnet
  else if w = "testnet" then .ok .testnet
  else if w = "regtest" then .ok .regtest
  else .error (.unknownNetwork s)

def Value.toNetwork : Value → Except Fault Bitcoin.Network
  | scalar _ (.text s) => networkOfName s
  | table _ [(k, _)] => networkOfName k
  | _ => .error .networkShape

def confirmationEntry (member : String × Value) : Except Fault (Wei × UInt16) := do
  let threshold ← amountOfText member.1
  let n ← (member.2.toBits 16).mapError (Fault.under member.1)
  return (threshold, UInt16.ofNat n)

def Value.toConfirmations : Value → Except Fault ConfirmationTable
  | table _ members => (members.mapM confirmationEntry).map ConfirmationTable.ofList
  | v => .error (.wrongType v.shapeText "a map")

structure Section where
  name : String
  fields : List String

def Section.expectedItems (s : Section) : String :=
  "struct " ++ s.name ++ " with " ++ Text.numeral s.fields.length ++
    (if s.fields.length = 1 then " element" else " elements")

def Section.values (s : Section) : Value → Except Fault (List (String × String × Value))
  | .table _ members => .ok (s.fields.filterMap fun f => (members.lookup f).map fun v => (f, f, v))
  | .list _ items =>
    .ok ((s.fields.zip items).zipIdx.map fun e => (e.1.1, "[" ++ Text.numeral e.2 ++ "]", e.1.2))
  | v => .error (.wrongType v.shapeText ("struct " ++ s.name))

def Section.field {α : Type} (s : Section) (v : Value) (read : Value → Except Fault α) (name : String) :
    Except Fault α := do
  match (← s.values v).lookup name with
  | some (step, field) => (read field).mapError (Fault.under step)
  | none =>
    match v with
    | .list _ items => throw (.tooShort items.length s.expectedItems)
    | _ => throw (.missing name)

def rootSection : Section := ⟨"Settings", ["lps", "pegin", "general"]⟩

def providerSection : Section :=
  ⟨"LpsConfig", ["network", "chain_id", "fee_collector_address", "fee_scale", "private_key", "btc_address"]⟩

def quotingSection : Section :=
  ⟨"PeginConfig", ["time_for_deposit", "call_time", "penalty_fee", "fixed_fee", "fee_percentage", "min_value", "max_value"]⟩

def generalSection : Section := ⟨"GeneralConfig", ["btc_confirmations"]⟩

def ofValue (root : Value) : Except Fault Settings :=
  let provider {α : Type} (read : Value → Except Fault α) (name : String) : Except Fault α :=
    rootSection.field root (fun v => providerSection.field v read name) "lps"
  let quoting {α : Type} (read : Value → Except Fault α) (name : String) : Except Fault α :=
    rootSection.field root (fun v => quotingSection.field v read name) "pegin"
  return {
    network := ← provider Value.toNetwork "network"
    chainId := ← provider Value.toUInt64 "chain_id"
    feeCollector := ← provider Value.toAddress "fee_collector_address"
    feeScale := ← provider Value.toUInt64 "fee_scale"
    secretKey := ← provider Value.toSecretKey "private_key"
    bitcoinAddress := ← provider Value.toText "btc_address"
    timeForDeposit := UInt32.ofNat (← quoting (Value.toBits 32) "time_for_deposit")
    callTime := UInt32.ofNat (← quoting (Value.toBits 32) "call_time")
    penaltyFee := ← quoting Value.toWei "penalty_fee"
    fixedFee := ← quoting Value.toWei "fixed_fee"
    feePercentage := ← quoting Value.toReal "fee_percentage"
    minValue := ← quoting Value.toWei "min_value"
    maxValue := ← quoting Value.toWei "max_value"
    confirmations := ← rootSection.field root
      (fun v => generalSection.field v Value.toConfirmations "btc_confirmations") "general" }

end Flyover.Settings
