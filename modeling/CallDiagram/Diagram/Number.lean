import CallDiagram.Text.Digit
import CallDiagram.Text.Quoted
import CallDiagram.Text.Split

/-! # Sequence numbers

Messages are numbered along the tree of calls: 1, 1.1, 1.2, 2. Numbers are compared part by part, so
2.10 comes after 2.9.
-/

namespace CallDiagram

open Text

/-- A part of a sequence number that is no integer. -/
structure NumberError where
  part : String
  cause : IntegerError
  deriving Repr, DecidableEq

namespace NumberError

/-- The wording of an error; long parts are shown up to 200 characters. -/
def message (e : NumberError) : String :=
  match e.cause with
  | .notANumber =>
    "invalid literal for int() with base 10: " ++ String.ofList ((quoted e.part).toList.take 200)
  | .tooLong digits =>
    s!"Exceeds the limit ({digitLimit} digits) for integer string conversion: value has {digits} "
      ++ "digits; use sys.set_int_max_str_digits() to increase the limit"

end NumberError

/-- An index of more digits than are written. -/
structure LongIndex where
  index : Int
  deriving Repr, DecidableEq

def LongIndex.message (_ : LongIndex) : String :=
  s!"Exceeds the limit ({digitLimit} digits) for integer string conversion; "
    ++ "use sys.set_int_max_str_digits() to increase the limit"

/-- The text of the number with an index below a number, however long the index is; the empty
number stands above all. The index of a call is its place in a list, which has few digits. -/
def numberBelow (parent : String) (index : Int) : String :=
  if parent = "" then toString index else parent ++ "." ++ toString index

/-- The number of the message with an index below a number, if the index can be written. -/
def formatNumber (parent : String) (index : Int) : Except LongIndex String :=
  if digitCount index ≤ digitLimit then .ok (numberBelow parent index) else .error ⟨index⟩

/-- The integers of a sequence number; empty parts do not count. -/
def numberKey (number : String) : Except NumberError (List Int) :=
  ((dotted number).filter (· ≠ "")).mapM fun part =>
    (readInteger part).mapError (NumberError.mk part)

def keyOrder : List Int → List Int → Bool
  | [], _ => true
  | _ :: _, [] => false
  | a :: as, b :: bs => if a = b then keyOrder as bs else a < b

/-- Sequence numbers in order; those with one key keep their places. -/
def sortNumbers (numbers : List String) : Except NumberError (List String) := do
  let keyed ← numbers.mapM fun number => return (← numberKey number, number)
  return (keyed.mergeSort fun a b => keyOrder a.1 b.1).map (·.2)

end CallDiagram
