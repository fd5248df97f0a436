import CardCatalog.Text
import CardCatalog.Text.PrintTable

/-!
# Quoted texts

A text in double quotes for the eye of a developer: every character is told apart from every other
one, and whatever does not print as it is stands as an escape.
-/

namespace CardCatalog.Text

/-- A code point in hexadecimal between braces. -/
def codeEscape (c : Char) : Text := "\\u\x7b" ++ Nat.toDigits 16 c.toNat ++ ['\x7d']

/-- A character between double quotes. -/
def quoteChar (c : Char) : Text :=
  if c = '\x00' then "\\0"
  else if c = '\t' then "\\t"
  else if c = '\r' then "\\r"
  else if c = '\n' then "\\n"
  else if c = '\\' then "\\\\"
  else if c = '"' then "\\\""
  else if graphemeExtendRanges.contains c || unprintableRanges.contains c then codeEscape c
  else [c]

/-- The text in double quotes. -/
def quoted (t : Text) : Text := '"' :: t.flatMap quoteChar ++ ['"']

end CardCatalog.Text
