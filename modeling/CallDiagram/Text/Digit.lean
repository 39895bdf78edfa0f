import CallDiagram.Text.Blank

/-! # Decimal digits and integers

Integers are read in decimal digits of any script: white space around, one sign, and single
underscores between digits are allowed. A number of more than 4300 digits is neither read nor
written.
-/

namespace CallDiagram.Text

/-- The zero of each block of decimal digits of Unicode 14; the other nine follow it. -/
def zeros : List Nat := [
  0x30, 0x660, 0x6F0, 0x7C0, 0x966, 0x9E6, 0xA66, 0xAE6, 0xB66, 0xBE6, 0xC66, 0xCE6, 0xD66,
  0xDE6, 0xE50, 0xED0, 0xF20, 0x1040, 0x1090, 0x17E0, 0x1810, 0x1946, 0x19D0, 0x1A80, 0x1A90,
  0x1B50, 0x1BB0, 0x1C40, 0x1C50, 0xA620, 0xA8D0, 0xA900, 0xA9D0, 0xA9F0, 0xAA50, 0xABF0,
  0xFF10, 0x104A0, 0x10D30, 0x11066, 0x110F0, 0x11136, 0x111D0, 0x112F0, 0x11450, 0x114D0,
  0x11650, 0x116C0, 0x11730, 0x118E0, 0x11950, 0x11C50, 0x11D50, 0x11DA0, 0x16A60, 0x16AC0,
  0x16B50, 0x1D7CE, 0x1D7D8, 0x1D7E2, 0x1D7EC, 0x1D7F6, 0x1E140, 0x1E2F0, 0x1E950, 0x1FBF0]

def digitValue? (c : Char) : Option Nat :=
  (zeros.find? fun first => decide (first ≤ c.toNat) && decide (c.toNat < first + 10)).map
    (c.toNat - ·)

/-- The value of a hexadecimal digit, in either case. -/
def hexValue? (c : Char) : Option Nat :=
  if '0' ≤ c ∧ c ≤ '9' then some (c.toNat - '0'.toNat)
  else if 'a' ≤ c ∧ c ≤ 'f' then some (c.toNat - 'a'.toNat + 10)
  else if 'A' ≤ c ∧ c ≤ 'F' then some (c.toNat - 'A'.toNat + 10)
  else none

inductive IntegerError
  | notANumber
  | tooLong (digits : Nat)
  deriving Repr, DecidableEq

/-- The largest number of digits of an integer that is read or written. -/
def digitLimit : Nat := 4300

/-- How many decimal digits an integer has; its sign is none. -/
def digitCount (i : Int) : Nat :=
  (Nat.toDigits 10 i.natAbs).length

def digits? : List Char → Option (List Nat)
  | [] => none
  | [c] => (digitValue? c).map ([·])
  | c :: '_' :: rest => do return (← digitValue? c) :: (← digits? rest)
  | c :: rest => do return (← digitValue? c) :: (← digits? rest)

def ofDigits (ds : List Nat) : Nat :=
  ds.foldl (fun value d => value * 10 + d) 0

/-- White space around a number: of ASCII only the space and the controls that move the pen. -/
def isNumberBlank (c : Char) : Bool :=
  if c.toNat < 128 then c == ' ' || (9 ≤ c.toNat && c.toNat ≤ 13) else isBlank c

/-- The integer that a text spells. -/
def readInteger (s : String) : Except IntegerError Int := do
  let cs := dropEnds isNumberBlank s.toList
  let (negative, rest) := match cs with
    | '-' :: rest => (true, rest)
    | '+' :: rest => (false, rest)
    | _ => (false, cs)
  match digits? rest with
  | none => throw .notANumber
  | some ds =>
    if digitLimit < ds.length then throw (.tooLong ds.length) else
    let value : Int := ofDigits ds
    return if negative then -value else value

end CallDiagram.Text
