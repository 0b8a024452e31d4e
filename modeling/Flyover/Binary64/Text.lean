import Flyover.Binary64
import Flyover.Text.Blank
import Flyover.Text.Digits
/-!
Reading binary floating-point numbers from decimal text.
-/

namespace Flyover.Binary64

def exponent? : List Char → Option Int
  | [] => some 0
  | c :: cs => if c = 'e' || c = 'E' then Text.integer? cs else none

def ofUnsigned? (negative : Bool) (cs : List Char) : Option Binary64 := do
  let whole := cs.takeWhile Text.isDigit
  let rest := cs.dropWhile Text.isDigit
  let (places, rest) := match rest with
    | '.' :: rest => (rest.takeWhile Text.isDigit, rest.dropWhile Text.isDigit)
    | rest => ([], rest)
  let m ← Text.natural? (whole ++ places)
  let e ← exponent? rest
  return ofDecimal negative m (e - places.length)

def ofText? (s : String) : Option Binary64 :=
  let (negative, cs) := match s.toList with
    | '-' :: cs => (true, cs)
    | '+' :: cs => (false, cs)
    | cs => (false, cs)
  let word := String.ofList (cs.map Char.toLower)
  if word = "nan" then some (ofMagnitude negative nan.magnitude)
  else if word = "inf" || word = "infinity" then some (infinity negative)
  else ofUnsigned? negative cs

end Flyover.Binary64
