import CallDiagram.Text.Blank
import CallDiagram.Text.Split

/-! # Wrapping long texts

A text is cut into lines of about a given width, at white space or behind the punctuation of
argument lists. Where the ideal place for a cut has neither, the cut moves by at most the soft
limit; failing that it moves on as far as needed, unless only a stub would be left behind. White
space around a cut is dropped, all else is kept.
-/

namespace CallDiagram.Text

structure Wrapper where
  /-- The ideal length of a line. -/
  width : Nat
  /-- How far a cut may move, and how much longer than ideal a line may be. -/
  softLimit : Nat
  marker : List Char
  width_pos : 0 < width
  softLimit_pos : 0 < softLimit
  marker_ne_nil : marker ≠ []

inductive WrapperError where
  | notPositive
  | noMarker
  deriving Repr, DecidableEq

namespace WrapperError

def message : WrapperError → String
  | notPositive => "width and soft_limit must be positive"
  | noMarker => "marker must not be empty"

end WrapperError

namespace Wrapper

def of (width softLimit : Int) (marker : List Char) : Except WrapperError Wrapper :=
  if h : 0 < width ∧ 0 < softLimit then
    if hm : marker ≠ [] then
      .ok ⟨width.toNat, softLimit.toNat, marker, by omega, by omega, hm⟩
    else .error .noMarker
  else .error .notPositive

/-- The punctuation behind which a line may end. -/
def punctuation : List Char :=
  "[].,:()\x7b".toList

def canBreakAt (c : Char) : Bool :=
  isBlank c || punctuation.contains c

def breaksAt (text : List Char) (i : Nat) : Bool :=
  (text[i]?).any canBreakAt

/-- The first index at which a line may end, of those from one index on, so many in number. -/
def firstBreak? (text : List Char) (start count : Nat) : Option Nat :=
  (List.range' start count).find? (breaksAt text)

def lastBreak? (text : List Char) (start count : Nat) : Option Nat :=
  (List.range' start count).reverse.find? (breaksAt text)

/-- The index at which a text that is too long for one line is cut. Close to the end of the text
the cut rather moves back, so that the last line is no stub. -/
def breakIndex? (w : Wrapper) (width : Nat) (text : List Char) : Option Nat :=
  if breaksAt text width then some width
  else
    let forward := firstBreak? text (width + 1) (w.softLimit - 1)
    let lowest := width - w.softLimit + 1
    let backward := lastBreak? text lowest (width - lowest)
    let near :=
      if 2 * (text.length - width) < 3 * w.softLimit then backward <|> forward
      else forward <|> backward
    near <|> do
      let far := width + w.softLimit
      let i ← firstBreak? text far (text.length - far)
      if text.length - i - 1 < w.softLimit then none else some i

/-- What stays of a text on the line that is cut at an index: white space goes, punctuation
stays. -/
def lineUpTo (text : List Char) (i : Nat) : List Char :=
  if (text[i]?).any isBlank then stripEnd (text.take i) else text.take (i + 1)

def linesOf (w : Wrapper) (width : Nat) (text : List Char) : List (List Char) :=
  if _h : width + w.softLimit < text.length then
    match w.breakIndex? width text with
    | none => [text]
    | some i =>
      let line := lineUpTo text i
      let lines := linesOf w width (stripStart (text.drop (i + 1)))
      if line.isEmpty then lines else line :: lines
  else if text.isEmpty then []
  else [text]
termination_by text.length
decreasing_by
  have : (stripStart (text.drop (i + 1))).length ≤ (text.drop (i + 1)).length :=
    (List.dropWhile_sublist _).length_le
  rw [List.length_drop] at this
  omega

def segmentLines (w : Wrapper) (width : Nat) (segment : List Char) : List (List Char) :=
  w.linesOf width (strip segment)

/-- Wraps every segment of a text; a text of one segment that is short enough stays as it is.
Without a width, or with width zero, the wrapper's own width counts. -/
def wrap (w : Wrapper) (text : List Char) (width : Nat := 0) : List Char :=
  let width := if width = 0 then w.width else width
  if (cutAt? w.marker text).isNone ∧ text.length ≤ width + w.softLimit then text
  else joinWith w.marker ((splitOn w.marker w.marker_ne_nil text).flatMap (w.segmentLines width))

end Wrapper

end CallDiagram.Text
