import Flyover.Text.Printable
/-!
Texts as they are quoted in messages: the quotation mark, the backslash, line breaks and tabs are escaped with a
backslash, characters that leave no mark of their own by their code point in hexadecimal.
-/

namespace Flyover.Text

def codePointEscape (c : Char) : List Char :=
  '\\' :: 'u' :: '\x7b' :: (Nat.toDigits 16 c.toNat ++ ['\x7d'])

def quoteChar (mark : Char) (c : Char) : List Char :=
  if c = '\x00' then ['\\', '0']
  else if c = '\t' then ['\\', 't']
  else if c = '\r' then ['\\', 'r']
  else if c = '\n' then ['\\', 'n']
  else if c = '\\' || c = mark then ['\\', c]
  else if isPrintable c then [c] else codePointEscape c

def quoted (s : String) : String :=
  String.ofList ('"' :: (s.toList.flatMap fun c =>
    if isCombining c then codePointEscape c else quoteChar '"' c) ++ ['"'])

def quotedChar (c : Char) : String :=
  String.ofList ('\'' :: (if isCombining c then codePointEscape c else quoteChar '\'' c) ++ ['\''])

end Flyover.Text
