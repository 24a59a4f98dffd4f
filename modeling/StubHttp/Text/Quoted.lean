import StubHttp.Text.ShownByNumber

/-!
# Quoted text in messages

A text that a message quotes stands between double quotes on one line. Quotes
and backslashes in it are escaped, NUL, tab, line feed and carriage return have
names, and whatever a terminal would not show as a character of its own is
given by its number in braces.
-/

namespace StubHttp.Text

/-- A character by its code point, in lower-case hexadecimal. -/
def byNumber (c : Char) : List Char :=
  '\\' :: 'u' :: '\x7b' :: Nat.toDigits 16 c.toNat ++ ['\x7d']

def quotedChar (c : Char) : List Char :=
  if c = '\x00' then ['\\', '0']
  else if c = '\t' then ['\\', 't']
  else if c = '\r' then ['\\', 'r']
  else if c = '\n' then ['\\', 'n']
  else if c = '\\' ∨ c = '"' then ['\\', c]
  else if isShownByNumber c then byNumber c
  else [c]

def quoted (s : String) : String :=
  String.ofList ('"' :: s.toList.flatMap quotedChar ++ ['"'])

end StubHttp.Text
