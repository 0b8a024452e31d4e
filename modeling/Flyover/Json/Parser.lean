import Flyover.Json.Basic
/-!
Reading JSON text. A number without point and exponent is an integer if it fits 64 bits with or without sign; any other is
a binary floating-point number, for which only the leading digits that fit 64 bits count. Arrays and objects nest to a
depth of 127.
-/

namespace Flyover.Json

def isSpace (c : Char) : Bool := c = ' ' || c = '\n' || c = '\t' || c = '\r'

def skipSpace (cs : List Char) : List Char := cs.dropWhile isSpace

def afterWord? : (word cs : List Char) → Option (List Char)
  | [], cs => some cs
  | w :: ws, c :: cs => if w = c then afterWord? ws cs else none
  | _ :: _, [] => none

def takeDigits (cs : List Char) : List Nat × List Char :=
  ((cs.takeWhile Text.isDigit).filterMap Text.digit?, cs.dropWhile Text.isDigit)

def takeWord (significand : Nat) : List Nat → Nat × List Nat
  | [] => (significand, [])
  | d :: ds => if significand * 10 + d < UInt64.size then takeWord (significand * 10 + d) ds else (significand, d :: ds)

def scaleReal (fuel : Nat) (x : Binary64) (exponent : Int) : Option Binary64 :=
  if exponent.natAbs ≤ 308 then
    let power := Binary64.ofNat (Nat.pow 10 exponent.natAbs)
    let y := if 0 ≤ exponent then x.mul power else x.div power
    if y.isFinite then some y else none
  else if x.isZero then some x
  else if 0 ≤ exponent then none
  else match fuel with
    | 0 => some (Binary64.zero false)
    | fuel + 1 => scaleReal fuel (x.div (Binary64.ofNat (Nat.pow 10 308))) (exponent + 308)

def real? (negative : Bool) (significand : Nat) (exponent : Int) : Option Json :=
  (scaleReal 4 (Binary64.ofNat significand) exponent).map fun x =>
    real (if negative then Binary64.ofMagnitude true x.magnitude else x)

def exponent? (cs : List Char) : Option (Int × List Char) :=
  match cs with
  | c :: rest =>
    if c = 'e' || c = 'E' then
      let (negative, rest) := match rest with
        | '-' :: rest => (true, rest)
        | '+' :: rest => (false, rest)
        | rest => (false, rest)
      match takeDigits rest with
      | ([], _) => none
      | (ds, rest) =>
        let n := Text.ofDigits 10 ds
        some (if negative then -(n : Int) else n, rest)
    else some (0, cs)
  | [] => some (0, [])

def unsigned? (negative : Bool) (cs : List Char) : Option (Json × List Char) := do
  let (whole, rest) := takeDigits cs
  guard (!whole.isEmpty && (whole.length = 1 || whole.head? ≠ some 0))
  let (s, dropped) := takeWord 0 whole
  let (fraction, rest') ← match rest with
    | '.' :: rest => match takeDigits rest with
      | ([], _) => none
      | (ds, rest) => some (some ds, rest)
    | rest => some (none, rest)
  let (s', left) := takeWord s (fraction.getD [])
  let (e, rest'') ← exponent? rest'
  let isWhole := fraction.isNone && rest'.length = rest''.length && dropped.isEmpty
  if isWhole && !negative then return (int s, rest'')
  if isWhole && 0 < s && Text.fitsInt64 (-(s : Int)) then return (int (-(s : Int)), rest'')
  let n ← real? negative s' (e + dropped.length - ((fraction.getD []).length - left.length : Nat))
  return (n, rest'')

def number? : List Char → Option (Json × List Char)
  | '-' :: cs => unsigned? true cs
  | cs => unsigned? false cs

def hexDigits? (cs : List Char) : Option Nat :=
  (cs.mapM fun c =>
    if '0' ≤ c ∧ c ≤ '9' then some (c.toNat - 0x30)
    else if 'a' ≤ c ∧ c ≤ 'f' then some (c.toNat - 0x57)
    else if 'A' ≤ c ∧ c ≤ 'F' then some (c.toNat - 0x37)
    else none).map (Text.ofDigits 16)

def escaped? : Char → Option Char
  | '"' => some '"'
  | '\\' => some '\\'
  | '/' => some '/'
  | 'b' => some '\x08'
  | 'f' => some '\x0c'
  | 'n' => some '\n'
  | 'r' => some '\r'
  | 't' => some '\t'
  | _ => none

def consChar (c : Char) : Option (List Char × List Char) → Option (List Char × List Char) :=
  Option.map fun r => (c :: r.1, r.2)

def stringBody : (lead : Option Nat) → List Char → Option (List Char × List Char)
  | none, '"' :: rest => some ([], rest)
  | lead, '\\' :: 'u' :: a :: b :: c :: d :: rest =>
    match hexDigits? [a, b, c, d], lead with
    | none, _ => none
    | some n, some hi =>
      if 0xDC00 ≤ n && n ≤ 0xDFFF then
        consChar (Char.ofNat (0x10000 + (hi - 0xD800) * 0x400 + (n - 0xDC00))) (stringBody none rest)
      else none
    | some n, none =>
      if 0xD800 ≤ n && n ≤ 0xDBFF then stringBody (some n) rest
      else if 0xDC00 ≤ n && n ≤ 0xDFFF then none
      else consChar (Char.ofNat n) (stringBody none rest)
  | none, '\\' :: c :: rest =>
    match escaped? c with
    | some e => consChar e (stringBody none rest)
    | none => none
  | none, c :: rest => if c = '\\' || c.toNat < 0x20 then none else consChar c (stringBody none rest)
  | _, _ => none

def string? : List Char → Option (String × List Char)
  | '"' :: cs => (stringBody none cs).map fun r => (String.ofList r.1, r.2)
  | _ => none

mutual

def value? : (fuel depth : Nat) → List Char → Option (Json × List Char)
  | 0, _, _ => none
  | fuel + 1, depth, cs =>
    match cs with
    | '"' :: _ => (string? cs).map fun r => (string r.1, r.2)
    | '[' :: rest => if depth = 0 then none else
      match skipSpace rest with
      | ']' :: rest => some (array [], rest)
      | rest => (items? fuel (depth - 1) rest).map fun r => (array r.1, r.2)
    | '\x7b' :: rest => if depth = 0 then none else
      match skipSpace rest with
      | '\x7d' :: rest => some (object [], rest)
      | rest => (members? fuel (depth - 1) [] rest).map fun r => (object r.1, r.2)
    | 'n' :: _ => (afterWord? "null".toList cs).map (null, ·)
    | 't' :: _ => (afterWord? "true".toList cs).map (bool true, ·)
    | 'f' :: _ => (afterWord? "false".toList cs).map (bool false, ·)
    | _ => number? cs

def items? : (fuel depth : Nat) → List Char → Option (List Json × List Char)
  | 0, _, _ => none
  | fuel + 1, depth, cs => do
    let (item, rest) ← value? fuel depth cs
    match skipSpace rest with
    | ']' :: rest => return ([item], rest)
    | ',' :: rest =>
      let (items, rest) ← items? fuel depth (skipSpace rest)
      return (item :: items, rest)
    | _ => none

def members? : (fuel depth : Nat) → List (String × Json) → List Char → Option (List (String × Json) × List Char)
  | 0, _, _, _ => none
  | fuel + 1, depth, before, cs => do
    let (name, rest) ← string? cs
    match skipSpace rest with
    | ':' :: rest =>
      let (v, rest) ← value? fuel depth (skipSpace rest)
      let members := insertMember name v before
      match skipSpace rest with
      | '\x7d' :: rest => return (members, rest)
      | ',' :: rest => members? fuel depth members (skipSpace rest)
      | _ => none
    | _ => none

end

def parse? (s : String) : Option Json :=
  let cs := skipSpace s.toList
  match value? (2 * cs.length + 1) 127 cs with
  | some (j, rest) => if (skipSpace rest).isEmpty then some j else none
  | none => none

end Flyover.Json
