import CloneScan.Unicode.Visible

/-!
# Texts in Messages

How a text is quoted inside a message. It stands in double quotes; a quote, a backslash and
the usual line and tab characters come after a backslash, and a character that would not
show is given by its number.

## Main definitions

* `hexText`: A number in hexadecimal digits.
* `showChar`: A character inside a quoted text.
* `shown`: A text in quotes.
-/

namespace CloneScan

namespace Text

/-- A number in hexadecimal digits, without zeros in front. -/
def hexText (n : Nat) : List Char :=
  Nat.toDigits 16 n

/-- A character inside a quoted text. -/
def showChar (c : Char) : List Char :=
  if c = '\x00' then ['\\', '0']
  else if c = '\t' then ['\\', 't']
  else if c = '\r' then ['\\', 'r']
  else if c = '\n' then ['\\', 'n']
  else if c = '"' then ['\\', '"']
  else if c = '\\' then ['\\', '\\']
  else if Unicode.isVisible c then [c]
  else '\\' :: 'u' :: '\x7b' :: hexText c.toNat ++ ['\x7d']

/-- A text in quotes, as a message shows it. -/
def shown (s : String) : String :=
  String.ofList ('"' :: s.toList.flatMap showChar ++ ['"'])

end Text

end CloneScan
