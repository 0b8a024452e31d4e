import Flyover.Binary64.Shortest
import Flyover.Text.Quoted
/-!
Values of the JSON data format, and the faults found when one is read as something else.
-/

namespace Flyover

inductive Json
  | null
  | bool (b : Bool)
  | int (i : Int)
  | real (x : Binary64)
  | string (s : String)
  | array (items : List Json)
  | object (members : List (String × Json))

namespace Json

instance : Inhabited Json := ⟨null⟩

inductive Shape
  | null
  | bool (b : Bool)
  | int (i : Int)
  | real (x : Binary64)
  | string (s : String)
  | array
  | object
deriving DecidableEq

def shape : Json → Shape
  | null => .null
  | bool b => .bool b
  | int i => .int i
  | real x => .real x
  | string s => .string s
  | array _ => .array
  | object _ => .object

def Shape.describe : Shape → String
  | null => "null"
  | bool b => "boolean `" ++ (if b then "true" else "false") ++ "`"
  | int i => "integer `" ++ Text.signedNumeral i ++ "`"
  | real x => "floating point `" ++ x.dataText ++ "`"
  | string s => "string " ++ Text.quoted s
  | array => "sequence"
  | object => "map"

inductive Fault
  | wrongType (found : Shape) (expected : String)
  | wrongValue (found : Shape) (expected : String)
  | wrongLength (length : Nat) (expected : String)
  | unknownVariant (name : String) (known : List String)
  | missingField (name : String)
  | rejected (reason : String)
deriving DecidableEq

def Fault.message : Fault → String
  | wrongType found expected => "invalid type: " ++ found.describe ++ ", expected " ++ expected
  | wrongValue found expected => "invalid value: " ++ found.describe ++ ", expected " ++ expected
  | wrongLength n expected => "invalid length " ++ Text.numeral n ++ ", expected " ++ expected
  | unknownVariant name known =>
    "unknown variant `" ++ name ++ "`, expected one of " ++ String.intercalate ", " (known.map fun k => "`" ++ k ++ "`")
  | missingField name => "missing field `" ++ name ++ "`"
  | rejected reason => reason

def member? (name : String) (members : List (String × Json)) : Option Json := members.lookup name

def insertMember (name : String) (value : Json) : List (String × Json) → List (String × Json)
  | [] => [(name, value)]
  | (k, v) :: rest => if k = name then (name, value) :: rest else (k, v) :: insertMember name value rest

end Json

end Flyover
