import CallDiagram.Settings.Basic
import CallDiagram.Text.Digit
import CallDiagram.Text.Split

/-! # Values in JSON

Lists of values are also read from text in JSON; what is between the braces of a JSON object is
checked but not kept, since no setting is an object.
-/

namespace CallDiagram

open Text

namespace Value

def isGap (c : Char) : Bool :=
  c == ' ' || c == '\t' || c == '\n' || c == '\r'

def dropGap (cs : List Char) : List Char :=
  cs.dropWhile isGap

def readUnit : List Char → Option (Nat × List Char)
  | a :: b :: c :: d :: rest => do
    let a ← hexValue? a
    let b ← hexValue? b
    let c ← hexValue? c
    let d ← hexValue? d
    return (a * 4096 + b * 256 + c * 16 + d, rest)
  | _ => none

/-- The second half of a pair of units, if the text goes on with one. -/
def readLowUnit : List Char → Option (Nat × List Char)
  | '\\' :: 'u' :: rest => do
    let (unit, rest) ← readUnit rest
    if 0xDC00 ≤ unit ∧ unit ≤ 0xDFFF then some (unit, rest) else none
  | _ => none

/-- The character of an escape in units, and what follows; a lone half becomes U+FFFD. -/
def readUnits (cs : List Char) : Option (Char × List Char) := do
  let (unit, rest) ← readUnit cs
  if 0xD800 ≤ unit ∧ unit ≤ 0xDFFF then
    match readLowUnit rest with
    | some (low, rest) =>
      if unit ≤ 0xDBFF then
        return (Char.ofNat (0x10000 + (unit - 0xD800) * 0x400 + (low - 0xDC00)), rest)
      else return ('\uFFFD', (cs.drop 4))
    | none => return ('\uFFFD', rest)
  else return (Char.ofNat unit, rest)

def simpleEscape? : Char → Option Char
  | '"' => some '"'
  | '\\' => some '\\'
  | '/' => some '/'
  | 'b' => some '\x08'
  | 'f' => some '\x0c'
  | 'n' => some '\n'
  | 'r' => some '\r'
  | 't' => some '\t'
  | _ => none

/-- The characters up to the closing quote, and what follows it. The fuel is the length of the
text. -/
def readText : (fuel : Nat) → List Char → Option (List Char × List Char)
  | 0, _ => none
  | _ + 1, [] => none
  | _ + 1, '"' :: rest => some ([], rest)
  | fuel + 1, '\\' :: 'u' :: rest => do
    let (c, rest) ← readUnits rest
    let (cs, rest) ← readText fuel rest
    return (c :: cs, rest)
  | fuel + 1, '\\' :: c :: rest => do
    let c ← simpleEscape? c
    let (cs, rest) ← readText fuel rest
    return (c :: cs, rest)
  | fuel + 1, c :: rest => do
    if c.toNat < 0x20 then none
    let (cs, rest) ← readText fuel rest
    return (c :: cs, rest)

/-- The fraction and the exponent of a number: whether the number has one, and what follows. -/
def readTail (cs : List Char) : Bool × List Char :=
  let (hasFraction, cs) := match cs with
    | '.' :: d :: rest =>
      if d.isDigit then (true, rest.dropWhile Char.isDigit) else (false, cs)
    | _ => (false, cs)
  let unsigned := match cs.drop 1 with
    | '+' :: rest => rest
    | '-' :: rest => rest
    | rest => rest
  let isExponent := (cs.head? = some 'e' || cs.head? = some 'E')
    && (unsigned.head?.any Char.isDigit)
  if isExponent then (true, unsigned.dropWhile Char.isDigit) else (hasFraction, cs)

/-- A number. Those with a fraction or an exponent are not told apart, since a list of texts
refuses them all. -/
def readNumber (cs : List Char) : Option (Value × List Char) := do
  let (negative, cs) := match cs with
    | '-' :: rest => (true, rest)
    | _ => (false, cs)
  let digits := match cs with
    | '0' :: _ => ['0']
    | _ => cs.takeWhile Char.isDigit
  if digits.isEmpty then none
  let (isFraction, rest) := readTail (cs.drop digits.length)
  if isFraction then return (.fraction, rest)
  if digitLimit < digits.length then none
  let value : Int := ofDigits (digits.map fun d => d.toNat - '0'.toNat)
  return (.integer (if negative then -value else value), rest)

def words : List (String × Value) :=
  [("null", .null), ("true", .bool true), ("false", .bool false), ("NaN", .fraction),
    ("Infinity", .fraction), ("-Infinity", .fraction)]

def readWord (cs : List Char) : Option (Value × List Char) :=
  words.findSome? fun (word, value) => (afterPrefix? word.toList cs).map (value, ·)

mutual

/-- A value and what follows it. The fuel bounds how many parts are read. -/
def readValue : (fuel : Nat) → List Char → Option (Value × List Char)
  | 0, _ => none
  | fuel + 1, cs =>
    match cs with
    | '"' :: rest => do
      let (s, rest) ← readText rest.length rest
      return (.text (String.ofList s), rest)
    | '[' :: rest =>
      match dropGap rest with
      | ']' :: rest => some (.list [], rest)
      | rest => do
        let (items, rest) ← readItems fuel rest
        return (.list items, rest)
    | '\x7b' :: rest =>
      match dropGap rest with
      | '\x7d' :: rest => some (.record, rest)
      | rest => (readMembers fuel rest).map (.record, ·)
    | cs => readWord cs <|> readNumber cs

def readItems : (fuel : Nat) → List Char → Option (List Value × List Char)
  | 0, _ => none
  | fuel + 1, cs => do
    let (value, rest) ← readValue fuel cs
    match dropGap rest with
    | ']' :: rest => return ([value], rest)
    | ',' :: rest =>
      let (values, rest) ← readItems fuel (dropGap rest)
      return (value :: values, rest)
    | _ => none

/-- What follows the members of an object and its closing brace. -/
def readMembers : (fuel : Nat) → List Char → Option (List Char)
  | 0, _ => none
  | fuel + 1, cs => do
    let '"' :: rest := cs | none
    let (_, rest) ← readText rest.length rest
    let ':' :: rest := dropGap rest | none
    let (_, rest) ← readValue fuel (dropGap rest)
    match dropGap rest with
    | '\x7d' :: rest => return rest
    | ',' :: rest => readMembers fuel (dropGap rest)
    | _ => none

end

def ofJson? (s : String) : Option Value := do
  let cs := s.toList
  let (value, rest) ← readValue (cs.length + 1) (dropGap cs)
  if (dropGap rest).isEmpty then some value else none

end Value

end CallDiagram
