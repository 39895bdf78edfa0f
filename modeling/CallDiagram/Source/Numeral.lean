import CallDiagram.Text.Digit

/-! # Numerals

How far a numeral reaches in a text: integers in four bases, decimal fractions with exponents,
imaginary numbers. Single underscores may stand between digits. A numeral must not run into a
word, unless the word is one of the operators and clauses that may follow a value.
-/

namespace CallDiagram.Source

def isDecimal (c : Char) : Bool :=
  '0' ≤ c && c ≤ '9'

def isHexadecimal (c : Char) : Bool :=
  isDecimal c || ('a' ≤ c && c ≤ 'f') || ('A' ≤ c && c ≤ 'F')

/-- A character that would prolong a word: every character beyond ASCII counts. -/
def prolongsWord (c : Char) : Bool :=
  c.isAlphanum || c == '_' || 128 ≤ c.toNat

/-- What follows digits with single underscores between them; at least one digit is needed. -/
def afterDigits? (p : Char → Bool) : List Char → Option (List Char)
  | [] => none
  | [c] => if p c then some [] else none
  | c :: '_' :: rest => if p c then afterDigits? p rest else none
  | c :: d :: rest =>
    if p c then (if p d then afterDigits? p (d :: rest) else some (d :: rest)) else none

def endsNumeral : List Char → Bool
  | 'a' :: 'n' :: 'd' :: _ => true
  | 'e' :: 'l' :: 's' :: 'e' :: _ => true
  | 'f' :: 'o' :: 'r' :: _ => true
  | 'i' :: 'f' :: _ => true
  | 'i' :: 'n' :: _ => true
  | 'i' :: 's' :: _ => true
  | 'n' :: 'o' :: 't' :: _ => true
  | 'o' :: 'r' :: _ => true
  | c :: _ => !prolongsWord c
  | [] => true

/-- A numeral that was read: what follows it, and whether it is imaginary. -/
structure Numeral where
  rest : List Char
  imaginary : Bool

def Numeral.ending? (rest : List Char) (imaginary : Bool) : Option Numeral :=
  if endsNumeral rest then some ⟨rest, imaginary⟩ else none

def decimalEnd? : List Char → Option Numeral
  | 'j' :: rest => Numeral.ending? rest true
  | 'J' :: rest => Numeral.ending? rest true
  | rest => Numeral.ending? rest false

def exponent? (cs : List Char) : Option Numeral :=
  match cs with
  | e :: rest =>
    if e == 'e' || e == 'E' then
      match rest with
      | '+' :: digits => afterDigits? isDecimal digits >>= decimalEnd?
      | '-' :: digits => afterDigits? isDecimal digits >>= decimalEnd?
      | d :: _ =>
        if isDecimal d then afterDigits? isDecimal rest >>= decimalEnd?
        else Numeral.ending? cs false
      | [] => Numeral.ending? cs false
    else decimalEnd? cs
  | [] => decimalEnd? cs

def fraction? (cs : List Char) : Option Numeral :=
  match cs with
  | d :: _ => if isDecimal d then afterDigits? isDecimal cs >>= exponent? else exponent? cs
  | [] => exponent? cs

def based? (p : Char → Bool) (cs : List Char) : Option Numeral := do
  let digits := match cs with
    | '_' :: digits => digits
    | _ => cs
  let rest ← afterDigits? p digits
  if (rest.head?.map isDecimal).getD false then none else Numeral.ending? rest false

/-- A decimal integer or the integral part of a decimal numeral. An integer with a leading zero
has no other digit, and its length is limited. -/
def decimal? (cs : List Char) : Option Numeral := do
  let rest ← afterDigits? isDecimal cs
  match rest with
  | '.' :: behind => fraction? behind
  | c :: _ =>
    if c == 'e' || c == 'E' || c == 'j' || c == 'J' then exponent? rest else integer rest
  | [] => integer rest
where
  integer (rest : List Char) : Option Numeral :=
    let digits := (cs.take (cs.length - rest.length)).filter isDecimal
    if digits.head? == some '0' && digits.any (· != '0') then none
    else if Text.digitLimit < digits.length then none
    else Numeral.ending? rest false

/-- The numeral at the start of a text whose first character is a digit, or a point before one. -/
def numeral? : List Char → Option Numeral
  | '.' :: rest => fraction? rest
  | '0' :: 'x' :: rest => based? isHexadecimal rest
  | '0' :: 'X' :: rest => based? isHexadecimal rest
  | '0' :: 'o' :: rest => based? (fun c => '0' ≤ c && c ≤ '7') rest
  | '0' :: 'O' :: rest => based? (fun c => '0' ≤ c && c ≤ '7') rest
  | '0' :: 'b' :: rest => based? (fun c => c == '0' || c == '1') rest
  | '0' :: 'B' :: rest => based? (fun c => c == '0' || c == '1') rest
  | cs => decimal? cs

end CallDiagram.Source
