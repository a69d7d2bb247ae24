import ContextQuery.Text.Digits
import ContextQuery.Toml.Value

/-!
# Numbers, truth values and dates

The values that are written without quotes or brackets. Digits may be set apart by single
underscores; whole numbers may be written in base sixteen, eight and two.

## Main definitions

* `integer?`, `decimal?`: numbers.
* `isMoment`: dates and times.
* `scalar?`: the value of such a text.
-/

namespace ContextQuery.Toml

/-! ## Numbers -/

/-- The digits of a number without the underscores between them. An underscore stands between two
digits; `opened` says that a digit stands right before. -/
def digits? (base : Nat) (opened : Bool) : List Char → Option (List Char)
  | [] => if opened then some [] else none
  | c :: cs =>
    if Text.isDigit base c then (digits? base true cs).map (c :: ·)
    else if c = '_' && opened then digits? base false cs
    else none

/-- The digits of a decimal number, which has no leading zero. -/
def plainDigits? (cs : List Char) : Option (List Char) :=
  (digits? 10 false cs).filter fun ds => ds.length = 1 || ds.head? ≠ some '0'

/-- Splits off a sign; the flag says that the number is negative. -/
def splitSign (cs : List Char) : Bool × List Char :=
  match cs with
  | '+' :: rest => (false, rest)
  | '-' :: rest => (true, rest)
  | _ => (false, cs)

/-- Reads a whole number. -/
def integer? (cs : List Char) : Option Int :=
  match cs with
  | '0' :: 'x' :: ds => (digits? 16 false ds).map fun ds => (Text.number 16 ds : Int)
  | '0' :: 'o' :: ds => (digits? 8 false ds).map fun ds => (Text.number 8 ds : Int)
  | '0' :: 'b' :: ds => (digits? 2 false ds).map fun ds => (Text.number 2 ds : Int)
  | _ =>
    (plainDigits? (splitSign cs).2).map fun ds =>
      if (splitSign cs).1 then -(Text.number 10 ds : Int) else (Text.number 10 ds : Int)

/-- Reads an exponent after its letter. -/
def exponent? (cs : List Char) : Option Int :=
  (digits? 10 false (splitSign cs).2).map fun ds =>
    if (splitSign cs).1 then -(Text.number 10 ds : Int) else (Text.number 10 ds : Int)

/-- Reads a number with a fraction, an exponent, or both. -/
def decimal? (cs : List Char) : Option Decimal := do
  let cs := (splitSign cs).2
  let isExponent : Char → Bool := fun c => c = 'e' || c = 'E'
  let mantissa := cs.takeWhile (!isExponent ·)
  let whole ← plainDigits? (mantissa.takeWhile (· ≠ '.'))
  let fraction ← match mantissa.dropWhile (· ≠ '.') with
    | [] => some []
    | _ :: ds => digits? 10 false ds
  let exponent ← match cs.dropWhile (!isExponent ·) with
    | [] => if fraction.isEmpty then none else some 0
    | _ :: cs => exponent? cs
  some ⟨Text.number 10 (whole ++ fraction), exponent - fraction.length⟩

/-! ## Dates and times -/

/-- Reads a number of the given count of digits that lies between two bounds. -/
def boundedDigits? (count low high : Nat) (cs : List Char) : Option (Nat × List Char) :=
  let ds := cs.take count
  let n := Text.number 10 ds
  if ds.length = count && ds.all (Text.isDigit 10) && low ≤ n && n ≤ high then
    some (n, cs.drop count)
  else none

/-- Skips a character. -/
def skip? (c : Char) (cs : List Char) : Option (List Char) :=
  match cs with
  | d :: rest => if d = c then some rest else none
  | [] => none

/-- The number of days of a month. -/
def daysOfMonth (year month : Nat) : Nat :=
  if month = 2 then
    if (year % 4 = 0 && year % 100 ≠ 0) || year % 400 = 0 then 29 else 28
  else if month = 4 || month = 6 || month = 9 || month = 11 then 30
  else 31

/-- Reads a date. -/
def date? (cs : List Char) : Option (List Char) := do
  let (year, cs) ← boundedDigits? 4 0 9999 cs
  let cs ← skip? '-' cs
  let (month, cs) ← boundedDigits? 2 1 12 cs
  let cs ← skip? '-' cs
  let (_, cs) ← boundedDigits? 2 1 (daysOfMonth year month) cs
  some cs

/-- Reads the fraction of a second, if there is one. -/
def secondFraction? (cs : List Char) : Option (List Char) :=
  match cs with
  | '.' :: rest =>
    if rest.head?.any (Text.isDigit 10) then some (rest.dropWhile (Text.isDigit 10)) else none
  | _ => some cs

/-- Reads a time of day; the seconds may be left out. -/
def time? (cs : List Char) : Option (List Char) := do
  let (_, cs) ← boundedDigits? 2 0 23 cs
  let cs ← skip? ':' cs
  let (_, cs) ← boundedDigits? 2 0 59 cs
  match skip? ':' cs with
  | none => some cs
  | some cs =>
    let (_, cs) ← boundedDigits? 2 0 60 cs
    secondFraction? cs

/-- Reads an offset from universal time, if there is one. -/
def offset? (cs : List Char) : Option (List Char) :=
  match cs with
  | [] => some []
  | c :: rest =>
    if c = 'Z' || c = 'z' then some rest
    else if c = '+' || c = '-' then do
      let (_, rest) ← boundedDigits? 2 0 23 rest
      let rest ← skip? ':' rest
      let (_, rest) ← boundedDigits? 2 0 59 rest
      some rest
    else none

/-- The text is a date, a time, or a date with a time and perhaps an offset. -/
def isMoment (cs : List Char) : Bool :=
  match date? cs with
  | some [] => true
  | some (c :: rest) =>
    (c = 'T' || c = 't' || c = ' ') && ((time? rest).bind offset?).any List.isEmpty
  | none => (time? cs).any List.isEmpty

/-! ## Values -/

/-- A character of a value without quotes or brackets. -/
def isScalarChar (c : Char) : Bool :=
  c.isAlphanum || c = '+' || c = '-' || c = '_' || c = '.' || c = ':'

/-- Splits off the characters of such a value. A blank may stand between a date and a time. -/
def splitScalar (cs : List Char) : List Char × List Char :=
  let first := cs.takeWhile isScalarChar
  match cs.dropWhile isScalarChar with
  | ' ' :: rest =>
    if (date? first).any List.isEmpty && rest.head?.any (Text.isDigit 10) then
      (first ++ ' ' :: rest.takeWhile isScalarChar, rest.dropWhile isScalarChar)
    else (first, ' ' :: rest)
  | rest => (first, rest)

/-- The value of such a text. -/
def scalar? (cs : List Char) : Option Value :=
  if cs = "true".toList then some (.boolean true)
  else if cs = "false".toList then some (.boolean false)
  else if ["inf".toList, "nan".toList].contains (splitSign cs).2 then some .special
  else if isMoment cs then
    some (.moment (String.ofList (cs.map fun c => if c = ' ' || c = 't' then 'T' else c.toUpper)))
  else
    match integer? cs with
    | some n => some (.integer n)
    | none => (decimal? cs).map .decimal

end ContextQuery.Toml
