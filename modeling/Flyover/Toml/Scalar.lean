import Flyover.Binary64.Text
/-!
The scalar values of TOML: strings, numbers, and dates with times.
-/

namespace Flyover.Toml

abbrev Taken := Option (List Char × List Char)

def consTaken (c : Char) (t : Taken) : Taken := t.map fun r => (c :: r.1, r.2)

def isPlain (c : Char) : Bool := c = '\t' || (0x20 ≤ c.toNat && c.toNat ≠ 0x7F)

def hexDigit? (c : Char) : Option Nat :=
  if '0' ≤ c ∧ c ≤ '9' then some (c.toNat - 0x30)
  else if 'a' ≤ c ∧ c ≤ 'f' then some (c.toNat - 0x57)
  else if 'A' ≤ c ∧ c ≤ 'F' then some (c.toNat - 0x37)
  else none

def codePoint? (digits : List Char) : Option Char := do
  let n := Text.ofDigits 16 (← digits.mapM hexDigit?)
  if h : n.isValidChar then some ⟨UInt32.ofNat n, by
    rcases h with h | h <;> simp only [UInt32.isValidChar, UInt32.toNat_ofNat', Nat.isValidChar] <;> omega⟩
  else none

def escaped? : Char → Option Char
  | 'b' => some '\x08'
  | 't' => some '\t'
  | 'n' => some '\n'
  | 'f' => some '\x0c'
  | 'r' => some '\r'
  | '"' => some '"'
  | '\\' => some '\\'
  | _ => none

def basicBody : List Char → Taken
  | '"' :: rest => some ([], rest)
  | '\\' :: 'u' :: a :: b :: c :: d :: rest =>
    match codePoint? [a, b, c, d] with
    | some ch => consTaken ch (basicBody rest)
    | none => none
  | '\\' :: 'U' :: a :: b :: c :: d :: e :: f :: g :: h :: rest =>
    match codePoint? [a, b, c, d, e, f, g, h] with
    | some ch => consTaken ch (basicBody rest)
    | none => none
  | '\\' :: c :: rest =>
    match escaped? c with
    | some ch => consTaken ch (basicBody rest)
    | none => none
  | c :: rest => if isPlain c then consTaken c (basicBody rest) else none
  | [] => none

def literalBody : List Char → Taken
  | '\'' :: rest => some ([], rest)
  | c :: rest => if isPlain c then consTaken c (literalBody rest) else none
  | [] => none

def closing? (mark : Char) : List Char → Taken
  | a :: b :: c :: rest =>
    if a = mark && b = mark && c = mark then
      match rest with
      | d :: e :: rest' =>
        if d = mark && e = mark then some ([mark, mark], rest')
        else if d = mark then some ([mark], e :: rest') else some ([], rest)
      | [d] => if d = mark then some ([mark], []) else some ([], rest)
      | [] => some ([], [])
    else none
  | _ => none

def newline? : List Char → Option (List Char)
  | '\n' :: rest => some rest
  | '\r' :: '\n' :: rest => some rest
  | _ => none

def isSpace (c : Char) : Bool := c = ' ' || c = '\t'

def isFolded (c : Char) : Bool := isSpace c || c = '\n' || c = '\r'

def multilineBody (mark : Char) : (fuel : Nat) → List Char → Taken
  | 0, _ => none
  | fuel + 1, cs =>
    match closing? mark cs with
    | some r => some r
    | none =>
      match newline? cs with
      | some rest => consTaken '\n' (multilineBody mark fuel rest)
      | none =>
        match cs with
        | [] => none
        | c :: rest =>
          if c = '\\' && mark = '"' then
            match rest with
            | 'u' :: a :: b :: c :: d :: rest => do
              let ch ← codePoint? [a, b, c, d]
              consTaken ch (multilineBody mark fuel rest)
            | 'U' :: a :: b :: c :: d :: e :: f :: g :: h :: rest => do
              let ch ← codePoint? [a, b, c, d, e, f, g, h]
              consTaken ch (multilineBody mark fuel rest)
            | rest =>
              if (newline? (rest.dropWhile isSpace)).isSome then multilineBody mark fuel (rest.dropWhile isFolded)
              else match rest with
                | [] => none
                | c :: rest => do
                  let ch ← escaped? c
                  consTaken ch (multilineBody mark fuel rest)
          else if isPlain c then consTaken c (multilineBody mark fuel rest) else none

def skipNewline (cs : List Char) : List Char := (newline? cs).getD cs

def string? : List Char → Option (String × List Char)
  | '"' :: '"' :: '"' :: rest => (multilineBody '"' (rest.length + 1) (skipNewline rest)).map fun r => (String.ofList r.1, r.2)
  | '\'' :: '\'' :: '\'' :: rest =>
    (multilineBody '\'' (rest.length + 1) (skipNewline rest)).map fun r => (String.ofList r.1, r.2)
  | '"' :: rest => (basicBody rest).map fun r => (String.ofList r.1, r.2)
  | '\'' :: rest => (literalBody rest).map fun r => (String.ofList r.1, r.2)
  | _ => none

def dropUnderscores? (isDigit : Char → Bool) : List Char → Option (List Char)
  | [] => none
  | [c] => if isDigit c then some [c] else none
  | c :: '_' :: rest => if isDigit c then (dropUnderscores? isDigit rest).map (c :: ·) else none
  | c :: rest => if isDigit c then (dropUnderscores? isDigit rest).map (c :: ·) else none

def sign : List Char → Bool × List Char
  | '-' :: cs => (true, cs)
  | '+' :: cs => (false, cs)
  | cs => (false, cs)

def whole? (cs : List Char) : Option (List Char) := do
  let ds ← dropUnderscores? Text.isDigit cs
  if ds.length = 1 || ds.head? ≠ some '0' then some ds else none

def based? (base : Nat) (cs : List Char) : Option Int := do
  let isDigit (c : Char) : Bool := match hexDigit? c with
    | some d => d < base
    | none => false
  let ds ← dropUnderscores? isDigit cs
  return Text.ofDigits base (ds.filterMap hexDigit?)

def integer? (cs : List Char) : Option Int := do
  let i ← match cs with
    | '0' :: 'x' :: ds => based? 16 ds
    | '0' :: 'o' :: ds => based? 8 ds
    | '0' :: 'b' :: ds => based? 2 ds
    | _ => do
      let (negative, ds) := sign cs
      let n ← Text.natural? (← whole? ds)
      some (if negative then -(n : Int) else n)
  if Text.fitsInt64 i then some i else none

def real? (cs : List Char) : Option Binary64 := do
  let (negative, rest) := sign cs
  if rest = "inf".toList then some (.infinity negative)
  else if rest = "nan".toList then some (.ofMagnitude negative Binary64.nan.magnitude)
  else
    let isMark (c : Char) : Bool := c = 'e' || c = 'E'
    let mantissa := rest.takeWhile fun c => !isMark c
    let exponent := rest.dropWhile fun c => !isMark c
    let w ← whole? (mantissa.takeWhile (· ≠ '.'))
    let places ← match mantissa.dropWhile (· ≠ '.') with
      | [] => some []
      | _ :: ds => dropUnderscores? Text.isDigit ds
    let e ← match exponent with
      | [] => some 0
      | _ :: ds => do
        let (negative, ds) := sign ds
        let n ← Text.natural? (← dropUnderscores? Text.isDigit ds)
        some (if negative then -(n : Int) else (n : Int))
    let x := Binary64.ofDecimal negative (← Text.natural? (w ++ places)) (e - places.length)
    if x = .infinity false || (places.isEmpty && exponent.isEmpty) then none else some x

def daysOf (year month : Nat) : Nat :=
  if month = 2 then if (year % 4 = 0 && year % 100 ≠ 0) || year % 400 = 0 then 29 else 28
  else if month = 4 || month = 6 || month = 9 || month = 11 then 30
  else 31

def isDate : List Char → Bool
  | [y₁, y₂, y₃, y₄, '-', m₁, m₂, '-', d₁, d₂] =>
    match Text.natural? [y₁, y₂, y₃, y₄], Text.natural? [m₁, m₂], Text.natural? [d₁, d₂] with
    | some y, some m, some d => 1 ≤ m && m ≤ 12 && 1 ≤ d && d ≤ daysOf y m
    | _, _, _ => false
  | _ => false

def fraction? (cs : List Char) : Option (List Char) :=
  match cs with
  | [] => some []
  | '.' :: ds =>
    if ds.isEmpty || !ds.all Text.isDigit then none
    else
      let kept := ((ds.take 9).reverse.dropWhile (· = '0')).reverse
      some (if kept.isEmpty then [] else '.' :: kept)
  | _ => none

def time? : List Char → Option (List Char)
  | h₁ :: h₂ :: ':' :: m₁ :: m₂ :: ':' :: s₁ :: s₂ :: rest => do
    let h ← Text.natural? [h₁, h₂]
    let m ← Text.natural? [m₁, m₂]
    let s ← Text.natural? [s₁, s₂]
    let f ← fraction? rest
    if h ≤ 23 && m ≤ 59 && s ≤ 60 then some ([h₁, h₂, ':', m₁, m₂, ':', s₁, s₂] ++ f) else none
  | _ => none

def offset? : List Char → Option (List Char)
  | ['Z'] | ['z'] => some ['Z']
  | [s, h₁, h₂, ':', m₁, m₂] => do
    let h ← Text.natural? [h₁, h₂]
    let m ← Text.natural? [m₁, m₂]
    if (s = '+' || s = '-') && h ≤ 23 && m ≤ 59 then
      some ((if h = 0 && m = 0 then '+' else s) :: [h₁, h₂, ':', m₁, m₂])
    else none
  | _ => none

def timeOffset? (cs : List Char) : Option (List Char) :=
  let isOffset (c : Char) : Bool := c = 'Z' || c = 'z' || c = '+' || c = '-'
  let t := cs.takeWhile fun c => !isOffset c
  match cs.dropWhile fun c => !isOffset c with
  | [] => time? t
  | o => do return (← time? t) ++ (← offset? o)

def dateTime? (cs : List Char) : Option String :=
  if isDate (cs.take 10) then
    match cs.drop 10 with
    | [] => some (String.ofList cs)
    | c :: rest =>
      if c = 'T' || c = 't' || c = ' ' then (timeOffset? rest).map fun t => String.ofList (cs.take 10 ++ 'T' :: t) else none
  else (time? cs).map String.ofList

end Flyover.Toml
