import CallDiagram.Text.Split

/-! # Common beginnings

The longest text that all of several texts begin with. Comparing the least and the greatest of them
is enough: whatever lies between two texts shares their common beginning.
-/

namespace CallDiagram.Text

def agreeing {α : Type} [DecidableEq α] : List α → List α → List α
  | a :: as, b :: bs => if a = b then a :: agreeing as bs else []
  | _, _ => []

def leastOf (s : String) (texts : List String) : String :=
  texts.foldl (fun least t => if t < least then t else least) s

def greatestOf (s : String) (texts : List String) : String :=
  texts.foldl (fun greatest t => if greatest < t then t else greatest) s

/-- The longest common beginning of some texts, empty if there are none. -/
def commonPrefix : List String → String
  | [] => ""
  | s :: texts => String.ofList (agreeing (leastOf s texts).toList (greatestOf s texts).toList)

/-- A text without a beginning, as often as it has it. -/
def withoutPrefix (start cs : List Char) : List Char :=
  if _hs : start = [] then cs
  else match _h : afterPrefix? start cs with
    | some rest => withoutPrefix start rest
    | none => cs
termination_by cs.length
decreasing_by
  have := afterPrefix?_eq_some_iff.1 _h
  have : 0 < start.length := List.length_pos_iff.2 _hs
  grind

end CallDiagram.Text
