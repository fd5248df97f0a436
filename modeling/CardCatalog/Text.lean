/-!
# Text

A text is the list of its characters. Every rule of the library is stated character by character,
so lexer, printers and tables all work on lists; `String` appears only where a text enters or
leaves the program, and in literals, which coerce.

* `Text.pieces` cuts at separators and keeps the empty pieces.
* `Text.utf8Size` is the length in bytes that offsets count.
* `Text.sameWord` compares without regard to ASCII case.
* `Text.ofInt` writes an integer in decimal.
-/

namespace CardCatalog

/-- A text, as the list of its characters. -/
abbrev Text := List Char

instance : Coe String Text := ⟨String.toList⟩

namespace Text

/-- Length in bytes of the UTF-8 encoding. -/
def utf8Size : Text → Nat
  | [] => 0
  | c :: rest => c.utf8Size + utf8Size rest

/-- The pieces between the characters that `sep` accepts; always one more than there are
separators. -/
def pieces (sep : Char → Bool) : Text → List Text
  | [] => [[]]
  | c :: rest =>
    if sep c then [] :: pieces sep rest
    else
      match pieces sep rest with
      | [] => [[c]]
      | p :: ps => (c :: p) :: ps

/-- Equality up to the case of ASCII letters. -/
def sameWord (a b : Text) : Bool := a.map Char.toLower == b.map Char.toLower

/-- Spaces are added on the right up to `width` characters; a longer text stays as it is. -/
def padRight (width : Nat) (t : Text) : Text := t ++ List.replicate (width - t.length) ' '

/-- Each line followed by a line feed. -/
def ofLines (lines : List Text) : Text := lines.flatMap (· ++ ['\n'])

/-- Decimal digits without leading zeros. -/
def ofNat (n : Nat) : Text := Nat.toDigits 10 n

/-- Decimal digits, after a minus sign if negative. -/
def ofInt : Int → Text
  | .ofNat n => ofNat n
  | .negSucc n => '-' :: ofNat (n + 1)

end Text

end CardCatalog
