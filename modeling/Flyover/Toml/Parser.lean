import Flyover.Toml.Basic
import Flyover.Toml.Scalar
/-!
Reading TOML documents.
-/

namespace Flyover.Toml

def skipSpace (cs : List Char) : List Char := cs.dropWhile isSpace

def skipComment? (cs : List Char) : Option (List Char) :=
  match cs with
  | '#' :: rest =>
    let after := rest.dropWhile isPlain
    if after.isEmpty || (newline? after).isSome then some after else none
  | _ => some cs

def skipLines? : (fuel : Nat) → List Char → Option (List Char)
  | 0, _ => none
  | fuel + 1, cs => do
    let rest ← skipComment? (skipSpace cs)
    match newline? rest with
    | some rest => skipLines? fuel rest
    | none => some rest

def isBare (c : Char) : Bool := c.isAlphanum || c = '_' || c = '-'

def simpleKey? (cs : List Char) : Option (String × List Char) :=
  match cs with
  | '"' :: rest => (basicBody rest).map fun r => (String.ofList r.1, r.2)
  | '\'' :: rest => (literalBody rest).map fun r => (String.ofList r.1, r.2)
  | _ =>
    let bare := cs.takeWhile isBare
    if bare.isEmpty then none else some (String.ofList bare, cs.dropWhile isBare)

def key? : (fuel : Nat) → List Char → Option (List String × List Char)
  | 0, _ => none
  | fuel + 1, cs => do
    let (part, rest) ← simpleKey? (skipSpace cs)
    match skipSpace rest with
    | '.' :: rest => do
      let (parts, rest) ← key? fuel rest
      return (part :: parts, rest)
    | rest => return ([part], rest)

def isScalarChar (c : Char) : Bool := c.isAlphanum || c = '_' || c = '-' || c = '+' || c = '.' || c = ':'

def scalar? (cs : List Char) : Option (Toml × List Char) :=
  let token := cs.takeWhile isScalarChar
  let rest := cs.dropWhile isScalarChar
  let (token, rest) := match rest with
    | ' ' :: d :: more =>
      if isDate token && Text.isDigit d then
        (token ++ ' ' :: (d :: more).takeWhile isScalarChar, (d :: more).dropWhile isScalarChar)
      else (token, rest)
    | _ => (token, rest)
  match integer? token, real? token, dateTime? token with
  | some i, _, _ => some (int i, rest)
  | none, some x, _ => some (real x, rest)
  | none, none, some t => some (time t, rest)
  | none, none, none => none

def word? (word : String) (value : Toml) (cs : List Char) : Option (Toml × List Char) :=
  if cs.takeWhile isScalarChar = word.toList then some (value, cs.dropWhile isScalarChar) else none

mutual

def value? : (fuel : Nat) → List Char → Option (Toml × List Char)
  | 0, _ => none
  | fuel + 1, cs =>
    match cs with
    | '"' :: _ | '\'' :: _ => (string? cs).map fun r => (string r.1, r.2)
    | '[' :: rest => (items? fuel rest).map fun r => (array r.1, r.2)
    | '\x7b' :: rest =>
      match skipSpace rest with
      | '\x7d' :: rest => some (table .inline [], rest)
      | rest => (pairs? fuel [] rest).map fun r => (table .inline r.1, r.2)
    | 't' :: _ => word? "true" (bool true) cs
    | 'f' :: _ => word? "false" (bool false) cs
    | _ => scalar? cs

def items? : (fuel : Nat) → List Char → Option (List Toml × List Char)
  | 0, _ => none
  | fuel + 1, cs => do
    match ← skipLines? (fuel + 1) cs with
    | ']' :: rest => return ([], rest)
    | rest =>
      let (item, rest) ← value? fuel rest
      match ← skipLines? (fuel + 1) rest with
      | ']' :: rest => return ([item], rest)
      | ',' :: rest => do
        let (more, rest) ← items? fuel rest
        return (item :: more, rest)
      | _ => none

def pairs? : (fuel : Nat) → Members → List Char → Option (Members × List Char)
  | 0, _, _ => none
  | fuel + 1, before, cs => do
    let (path, rest) ← key? (fuel + 1) cs
    match rest with
    | '=' :: rest => do
      let (v, rest) ← value? fuel (skipSpace rest)
      let last ← path.getLast?
      let members ← addDotted last v path.dropLast before
      match skipSpace rest with
      | '\x7d' :: rest => return (members, rest)
      | ',' :: rest => pairs? fuel members rest
      | _ => none
    | _ => none

end

inductive Line
  | openTable (path : List String)
  | openElement (path : List String)
  | pair (path : List String) (value : Toml)

def line? (fuel : Nat) (cs : List Char) : Option (Line × List Char) :=
  match cs with
  | '[' :: '[' :: rest => do
    let (path, rest) ← key? fuel rest
    match rest with
    | ']' :: ']' :: rest => return (.openElement path, rest)
    | _ => none
  | '[' :: rest => do
    let (path, rest) ← key? fuel rest
    match rest with
    | ']' :: rest => return (.openTable path, rest)
    | _ => none
  | _ => do
    let (path, rest) ← key? fuel cs
    match rest with
    | '=' :: rest => do
      let (v, rest) ← value? fuel (skipSpace rest)
      return (.pair path v, rest)
    | _ => none

def Line.apply (current : List String) (root : Members) : Line → Option (List String × Members)
  | .openTable path => do
    return (path, ← changeWithin (Toml.openTable (← path.getLast?)) path.dropLast root)
  | .openElement path => do
    return (path, ← changeWithin (Toml.openElement (← path.getLast?)) path.dropLast root)
  | .pair path v => do
    return (current, ← changeWithin (addDotted (← path.getLast?) v path.dropLast) current root)

def lines? : (fuel : Nat) → (current : List String) → Members → List Char → Option Members
  | 0, _, _, _ => none
  | fuel + 1, current, root, cs => do
    match ← skipLines? (fuel + 1) cs with
    | [] => return root
    | cs => do
      let (line, rest) ← line? (fuel + 1) cs
      let (current, root) ← line.apply current root
      let rest ← skipComment? (skipSpace rest)
      match rest with
      | [] => return root
      | rest => lines? fuel current root (← newline? rest)

def parse? (s : String) : Option Members :=
  let cs := match s.toList with
    | '\uFEFF' :: cs => cs
    | cs => cs
  lines? (cs.length + 2) [] [] cs

end Flyover.Toml
