import ContextQuery.Word

/-!
# TOML values

The values of a document and the tables they stand in. A table remembers how it came about, since
that decides what may be added to it.
-/

namespace ContextQuery.Toml

/-- A number written with a fraction or an exponent: `digits * 10 ^ exponent`, with its sign left
out. -/
structure Decimal where
  digits : Nat
  exponent : Int
  deriving DecidableEq

/-- The number is too large for a double: it reaches the midpoint between the largest double and
the next power of two. The number of digits settles all but a narrow range. -/
def Decimal.overflows (d : Decimal) : Bool :=
  let magnitude : Int := (Nat.toDigits 10 d.digits).length + d.exponent
  if d.digits = 0 || magnitude < 300 then false
  else if magnitude > 320 then true
  else decide (d.digits * Nat.pow 10 d.exponent.toNat ≥
    (Nat.pow 2 1024 - Nat.pow 2 970) * Nat.pow 10 (-d.exponent).toNat)

/-- How a table came about. -/
inductive Origin where
  /-- It has a header of its own. -/
  | header
  /-- Only tables inside it have headers. -/
  | implied
  /-- Dotted keys lead through it. -/
  | dotted
  /-- It is written between braces. -/
  | inline
  deriving DecidableEq

/-- A value. -/
inductive Value where
  | string (text : String)
  | boolean (value : Bool)
  | integer (value : Int)
  /-- A number with a fraction or an exponent. -/
  | decimal (value : Decimal)
  /-- An infinity, or what is no number. -/
  | special
  /-- A date, a time, or both. -/
  | moment (text : String)
  /-- An array; the flag says that it is a list of tables with headers. -/
  | array (ofTables : Bool) (items : List Value)
  | table (origin : Origin) (entries : List (String × Value))

/-- The entries of a table, in the order in which they were added. -/
abbrev Entries := List (String × Value)

/-- The value of a key. -/
def Entries.get? (entries : Entries) (key : String) : Option Value :=
  (entries.find? fun entry => entry.1 = key).map (·.2)

/-- Gives a key a value, in the place of the value that it has, or else at the end. -/
def Entries.set (key : String) (value : Value) : Entries → Entries
  | [] => [(key, value)]
  | entry :: rest =>
    if entry.1 = key then (key, value) :: rest else entry :: Entries.set key value rest

mutual

/-- All numbers in a value have a place in a machine: integers of 128 bits with or without a sign,
and doubles. -/
def Value.isRepresentable : Value → Bool
  | .integer n => -(Word.count128 / 2 : Nat) ≤ n && n < Word.count128
  | .decimal d => !d.overflows
  | .array _ items => representableItems items
  | .table _ entries => representableEntries entries
  | _ => true

/-- All numbers in the items of an array have a place in a machine. -/
def representableItems : List Value → Bool
  | [] => true
  | item :: items => item.isRepresentable && representableItems items

/-- All numbers in the entries of a table have a place in a machine. -/
def representableEntries : List (String × Value) → Bool
  | [] => true
  | entry :: entries => representableEntry entry && representableEntries entries

/-- All numbers in an entry of a table have a place in a machine. -/
def representableEntry : String × Value → Bool
  | (_, value) => value.isRepresentable

end

end ContextQuery.Toml
