/-!
# Columns

Text set flush left or flush right in a number of columns, one to a character.
Text that is longer than its columns is left as it is.
-/

namespace StubHttp.Text

def blanks (n : Nat) : String :=
  String.ofList (List.replicate n ' ')

def flushLeft (columns : Nat) (s : String) : String :=
  s ++ blanks (columns - s.length)

def flushRight (columns : Nat) (s : String) : String :=
  blanks (columns - s.length) ++ s

end StubHttp.Text
