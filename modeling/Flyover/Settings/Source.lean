import Flyover.Binary64.Text
import Flyover.Json.Parser
import Flyover.Settings.Path
import Flyover.Toml.Parser
/-!
The sources of settings, in the order in which one is laid over the other: what is set by default, a file, and the
variables of the environment.
-/

namespace Flyover.Settings

inductive Format
  | toml
  | json
deriving DecidableEq

def Format.ofFileName? (name : String) : Option Format :=
  if name.endsWith ".toml" then some toml
  else if name.endsWith ".json" then some json
  else none

structure Document where
  name : String
  format : Format
  content : String
deriving DecidableEq

def Document.members (d : Document) : Except Fault (List (String × Value)) :=
  match d.format with
  | .toml =>
    match Toml.parse? d.content with
    | some ms => .ok (Value.ofTomlMembers d.name ms)
    | none => .error .malformedFile
  | .json =>
    match Json.parse? d.content with
    | some (.object ms) => .ok (Value.ofJsonMembers d.name ms)
    | _ => .error .malformedFile

def defaults : List (String × Value) :=
  [("pegin.time_for_deposit", .scalar none (.word 3600)), ("pegin.call_time", .scalar none (.word 7200)),
    ("lps.fee_scale", .scalar none (.word 10000))]

def variableMark : List Char := "lps_".toList

def separated : List Char → List Char
  | '_' :: '_' :: rest => '.' :: separated rest
  | c :: rest => c :: separated rest
  | [] => []

def variableKey? (name : String) : Option String :=
  let cs := name.toList.map Char.toLower
  if variableMark.isPrefixOf cs then some (String.ofList (separated (cs.drop variableMark.length))) else none

def variableScalar (text : String) : Scalar :=
  if Text.lower text = "true" then .bool true
  else if Text.lower text = "false" then .bool false
  else
    match (Text.integer? text.toList).filter Text.fitsInt64, Binary64.ofText? text with
    | some i, _ => .int i
    | none, some x => .real x
    | none, none => .text text

def variableMembers (environment : List (String × String)) : List (String × Value) :=
  environment.filterMap fun v =>
    (variableKey? v.1).map fun key => (key, .scalar (some "the environment") (variableScalar v.2))

def layer (root : Value) (members : List (String × Value)) : Value :=
  members.foldl (fun root m => root.insert m.1 m.2) root

end Flyover.Settings
