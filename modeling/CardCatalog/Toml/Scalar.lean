import CardCatalog.Integer
import CardCatalog.Toml.Quoted

/-!
# TOML scalars

The values that are written without quotes: truth values, integers in four bases, numbers with a
fraction or an exponent, and dates and times. `Scalar.ofWord?` tells what a whole word stands for.
-/

namespace CardCatalog.Toml.Scalar

/-! ## Digits -/

/-- Drops the underscores of a row of digits; each must have a digit on both sides. -/
def plainDigits? (isDigit : Char → Bool) : Text → Option Text
  | [c] => if isDigit c then some [c] else none
  | c :: '_' :: d :: rest =>
    if isDigit c && isDigit d then (plainDigits? isDigit (d :: rest)).map (c :: ·) else none
  | c :: rest => if isDigit c then (plainDigits? isDigit rest).map (c :: ·) else none
  | [] => none

/-- The number that digits of the given base stand for. -/
def value (base : Nat) (digits : Text) : Nat :=
  digits.foldl (fun n c => base * n + (Quoted.hexDigit? c).getD 0) 0

/-- A row of digits of the given base. -/
def nat? (base : Nat) (t : Text) : Option Nat :=
  (plainDigits? (fun c => (Quoted.hexDigit? c).any (· < base)) t).map (value base)

/-- A row of decimal digits without a zero in front of another digit. -/
def decimal? (t : Text) : Option Nat :=
  match t with
  | '0' :: _ :: _ => none
  | _ => nat? 10 t

/-! ## Numbers -/

/-- An integer, in decimal with an optional sign, or behind the mark of another base. It must fit
into 64 bits. -/
def int? (t : Text) : Option Int := do
  let n : Int ← match t with
    | '0' :: 'x' :: digits => (nat? 16 digits).map Int.ofNat
    | '0' :: 'o' :: digits => (nat? 8 digits).map Int.ofNat
    | '0' :: 'b' :: digits => (nat? 2 digits).map Int.ofNat
    | '+' :: digits => (decimal? digits).map Int.ofNat
    | '-' :: digits => (decimal? digits).map fun n => -Int.ofNat n
    | digits => (decimal? digits).map Int.ofNat
  if Integer.clamp n = n then some n else none

/-- The text without a sign at its start. -/
def dropSign : Text → Text
  | '+' :: t => t
  | '-' :: t => t
  | t => t

/-- The mark of an exponent. -/
def isExponentMark (c : Char) : Bool := c == 'e' || c == 'E'

/-- The least number that is rounded to infinity in 64 bits of floating point. -/
def firstInfinite : Nat := Nat.pow 2 1024 - Nat.pow 2 970

/-- The number `n * 10 ^ scale` is rounded to infinity. It is computed only if it has 309 digits before
the point; with fewer it is finite, with more it is not. -/
def isInfinite (n : Nat) (scale : Int) : Bool :=
  let size := (Text.ofNat n).length
  let magnitude := scale + size
  if n = 0 || magnitude < 309 then false
  else if 309 < magnitude then true
  else firstInfinite * Nat.pow 10 (-scale).toNat ≤ n * Nat.pow 10 scale.toNat

/-- A row of digits behind an optional sign. -/
def signed? (t : Text) : Option Int :=
  (nat? 10 (dropSign t)).map fun n => if t.head? = some '-' then -Int.ofNat n else n

/-- The digits of a number with a fraction, an exponent or both, and the power of ten by which they
are multiplied. -/
def decimalFloat? (t : Text) : Option (Nat × Int) := do
  let mantissa := t.takeWhile (!isExponentMark ·)
  let exponent := t.dropWhile (!isExponentMark ·)
  let whole := mantissa.takeWhile (· != '.')
  let fraction := mantissa.dropWhile (· != '.')
  if exponent = [] && fraction = [] then none
  let _ ← decimal? whole
  let digits ← if fraction = [] then some [] else plainDigits? Char.isDigit (fraction.drop 1)
  let power ← if exponent = [] then some 0 else signed? (exponent.drop 1)
  return (value 10 (whole.filter Char.isDigit ++ digits), power - digits.length)

/-- A number with a fraction or an exponent; or infinity, or no number. It may be rounded to
infinity below zero only. -/
def isFloat (t : Text) : Bool :=
  let unsigned := dropSign t
  if unsigned = "inf".toList || unsigned = "nan".toList then true
  else
    match decimalFloat? unsigned with
    | some (n, scale) => t.head? = some '-' || !isInfinite n scale
    | none => false

/-! ## Dates and times -/

/-- The number that exactly `width` decimal digits stand for. -/
def fixed? (width : Nat) (t : Text) : Option Nat :=
  if t.length = width && t.all Char.isDigit then some (value 10 t) else none

/-- The number of days in a month. -/
def daysIn (year month : Nat) : Nat :=
  if month = 2 then
    if year % 4 = 0 && (year % 100 ≠ 0 || year % 400 = 0) then 29 else 28
  else if month = 4 || month = 6 || month = 9 || month = 11 then 30
  else 31

/-- A date: year, month and day. -/
def isDate (t : Text) : Bool :=
  match Text.pieces (· == '-') t with
  | [y, m, d] =>
    match fixed? 4 y, fixed? 2 m, fixed? 2 d with
    | some year, some month, some day =>
      1 ≤ month && month ≤ 12 && 1 ≤ day && day ≤ daysIn year month
    | _, _, _ => false
  | _ => false

/-- Seconds, with or without a fraction. -/
def isSeconds (t : Text) : Bool :=
  match Text.pieces (· == '.') t with
  | [s] => (fixed? 2 s).any (· ≤ 60)
  | [s, fraction] => (fixed? 2 s).any (· ≤ 60) && fraction ≠ [] && fraction.all Char.isDigit
  | _ => false

/-- A time of the day: hours, minutes and seconds. -/
def isTime (t : Text) : Bool :=
  match Text.pieces (· == ':') t with
  | [h, m, s] => (fixed? 2 h).any (· ≤ 23) && (fixed? 2 m).any (· ≤ 59) && isSeconds s
  | _ => false

/-- A distance from universal time behind its sign: hours and minutes. -/
def isOffset (t : Text) : Bool :=
  match Text.pieces (· == ':') t with
  | [h, m] => (fixed? 2 h).any (· ≤ 23) && (fixed? 2 m).any (· ≤ 59)
  | _ => false

/-- A time of the day with or without the distance from universal time. -/
def isZonedTime (t : Text) : Bool :=
  let clock := t.takeWhile fun c => c.isDigit || c == ':' || c == '.'
  isTime clock &&
    match t.drop clock.length with
    | [] => true
    | [c] => c == 'Z' || c == 'z'
    | c :: offset => (c == '+' || c == '-') && isOffset offset

/-- The character between a date and a time. -/
def isTimeMark (c : Char) : Bool := c == 'T' || c == 't' || c == ' '

/-- A date, a time, or both. -/
def isMoment (t : Text) : Bool :=
  if isTime t then true
  else
    isDate (t.take 10) &&
      match t.drop 10 with
      | [] => true
      | c :: time => isTimeMark c && isZonedTime time

/-! ## Words -/

/-- The value that a whole word stands for. -/
def ofWord? (word : Text) : Option Value :=
  if word = "true".toList then some (.bool true)
  else if word = "false".toList then some (.bool false)
  else
    match int? word with
    | some n => some (.int n)
    | none =>
      if isFloat word then some (.float word)
      else if isMoment word then some (.time word)
      else none

/-- The character may stand in a word. -/
def isWordChar (c : Char) : Bool :=
  c.isAlphanum || c == '_' || c == '+' || c == '-' || c == '.' || c == ':'

/-- Reads a word. A space behind a date belongs to the word if a time follows it. -/
def readWord (t : Text) : Text × Text :=
  let word := t.takeWhile isWordChar
  let rest := t.dropWhile isWordChar
  match rest with
  | ' ' :: d :: _ =>
    if isDate word && d.isDigit then
      let time := (rest.drop 1).takeWhile isWordChar
      (word ++ ' ' :: time, (rest.drop 1).dropWhile isWordChar)
    else (word, rest)
  | _ => (word, rest)

/-- Reads a scalar. -/
def read? (t : Text) : Option (Value × Text) :=
  let (word, rest) := readWord t
  (ofWord? word).map (·, rest)

end CardCatalog.Toml.Scalar
