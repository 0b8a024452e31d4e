import Flyover.Json.Basic
/-!
The text of a JSON value, without blanks between its tokens.
-/

namespace Flyover.Json

def controlEscape (n : Nat) : List Char :=
  ['\\', 'u', '0', '0', Nat.digitChar (n / 16), Nat.digitChar (n % 16)]

def escapeChar (c : Char) : List Char :=
  if c = '"' then ['\\', '"']
  else if c = '\\' then ['\\', '\\']
  else if c.toNat = 0x08 then ['\\', 'b']
  else if c.toNat = 0x0C then ['\\', 'f']
  else if c = '\n' then ['\\', 'n']
  else if c = '\r' then ['\\', 'r']
  else if c = '\t' then ['\\', 't']
  else if c.toNat < 0x20 then controlEscape c.toNat
  else [c]

def stringChars (s : String) : List Char := '"' :: s.toList.flatMap escapeChar ++ ['"']

def realText (x : Binary64) : String := if x.isFinite then x.dataText else "null"

mutual

def chars : Json → List Char
  | null => "null".toList
  | bool true => "true".toList
  | bool false => "false".toList
  | int i => (Text.signedNumeral i).toList
  | real x => (realText x).toList
  | string s => stringChars s
  | array [] => ['[', ']']
  | array (item :: items) => '[' :: chars item ++ itemChars items ++ [']']
  | object [] => ['\x7b', '\x7d']
  | object ((k, v) :: members) => '\x7b' :: stringChars k ++ ':' :: chars v ++ memberChars members ++ ['\x7d']

def itemChars : List Json → List Char
  | [] => []
  | item :: items => ',' :: chars item ++ itemChars items

def memberChars : List (String × Json) → List Char
  | [] => []
  | (k, v) :: members => ',' :: stringChars k ++ ':' :: chars v ++ memberChars members

end

def text (j : Json) : String := String.ofList (chars j)

def unitEscape (n : Nat) : List Char :=
  '\\' :: 'u' :: [n / 4096, n / 256 % 16, n / 16 % 16, n % 16].map Nat.digitChar

def asciiChar (c : Char) : List Char :=
  if c.toNat < 0x80 then [c]
  else if c.toNat < 0x10000 then unitEscape c.toNat
  else unitEscape (0xD800 + (c.toNat - 0x10000) / 1024) ++ unitEscape (0xDC00 + (c.toNat - 0x10000) % 1024)

def asciiText (j : Json) : String := String.ofList ((chars j).flatMap asciiChar)

end Flyover.Json
