import Flyover.Settings.Load
/-!
The command line of a provider: which settings to load, and what is told about them once they are loaded.
-/

namespace Flyover.CommandLine

inductive Style
  | pretty
  | json
deriving DecidableEq

def Style.ofName? : String → Option Style
  | "pretty" => some pretty
  | "json" => some json
  | _ => none

structure Options where
  config : Option String
  style : Style
deriving DecidableEq

def usage : String := "usage: flyover [-c FILE] [-o pretty|json]"

def Options.read? (options : Options) : List String → Option Options
  | [] => some options
  | "-c" :: path :: rest | "--config" :: path :: rest => read? { options with config := some path } rest
  | "-o" :: name :: rest | "--output-format" :: name :: rest =>
    match Style.ofName? name with
    | some style => read? { options with style } rest
    | none => none
  | _ => none

def Options.ofArguments? (arguments : List String) : Option Options := Options.read? ⟨none, .pretty⟩ arguments

def assignment? (entry : List Char) : Option (String × String) :=
  match entry.dropWhile (· ≠ '=') with
  | _ :: text => some (String.ofList (entry.takeWhile (· ≠ '=')), String.ofList text)
  | [] => none

def environmentOf (block : String) : List (String × String) := (block.toList.splitOn '\x00').filterMap assignment?

structure Notice where
  headline : String
  figures : List (String × Json)

namespace Notice

def figureText : Json → String
  | .string s => s
  | j => j.text

def line (n : Notice) : Style → String
  | .pretty => String.intercalate " " (n.headline :: n.figures.map fun f => f.1 ++ "=" ++ figureText f.2)
  | .json => Json.text (.object (("message", .string n.headline) :: n.figures))

end Notice

def networkName : Bitcoin.Network → String
  | .mainnet => "mainnet"
  | .testnet => "testnet"
  | .regtest => "regtest"

def identity (s : Settings) : Notice where
  headline := "loaded provider identity"
  figures := [("provider", .string s.provider.text), ("network", .string (networkName s.network)),
    ("chain_id", Json.encode s.chainId), ("btc_address", .string s.bitcoinAddress),
    ("fee_collector", .string s.feeCollector.text)]

def terms (s : Settings) : Notice where
  headline := "effective peg-in configuration"
  figures := [("time_for_deposit", Json.encode s.timeForDeposit), ("call_time", Json.encode s.callTime),
    ("penalty_fee", Json.encode s.penaltyFee), ("fixed_fee", Json.encode s.fixedFee),
    ("fee_percentage", Json.encode s.feePercentage), ("min_value", Json.encode s.minValue),
    ("max_value", Json.encode s.maxValue), ("max_confirmations", Json.encode s.confirmations.max)]

def notices (s : Settings) : List Notice := [identity s, terms s]

def loadSettings (file : Option (String × Option String)) (environment : List (String × String)) :
    Except Settings.Fault Settings :=
  match file with
  | none => Settings.load none environment
  | some (name, content) =>
    match Settings.Format.ofFileName? name, content with
    | some format, some content => Settings.load (some ⟨name, format, content⟩) environment
    | _, _ => .error .noFile

end Flyover.CommandLine
