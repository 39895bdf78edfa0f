import CallDiagram.Source.Syntax

/-! # Tokens

A token is a word, a number, a string literal, an operator, or a mark of the layout: the end of a
logical line, a deeper indentation, the return from one, the end of the text.
-/

namespace CallDiagram.Source

/-- A string literal as written: its letters in front, and the text between the quotes. -/
structure Literal where
  raw : Bool
  bytes : Bool
  formatted : Bool
  start : Mark
  /-- The letters in front and the opening quotes. -/
  opening : List Char
  body : List Char
  deriving Repr, DecidableEq, Inhabited

inductive Lexeme where
  | word (text : String)
  | number (imaginary : Bool)
  | literal (literal : Literal)
  | operator (text : String)
  | newline
  | indent
  | dedent
  | finish
  deriving Repr, DecidableEq, Inhabited

/-- Whether a token belongs to the layout alone. -/
def Lexeme.isLayout : Lexeme → Bool
  | .newline | .indent | .dedent | .finish => true
  | _ => false

/-- What is read as a word is one. -/
def Lexeme.IsSpelled : Lexeme → Prop
  | .word text => IsWord text
  | _ => True

theorem Lexeme.isSpelled_of_isLayout {lexeme : Lexeme} (layout : lexeme.isLayout) :
    lexeme.IsSpelled := by
  cases lexeme with
  | word text => cases layout
  | _ => trivial

structure Token where
  lexeme : Lexeme
  span : Span
  spelled : lexeme.IsSpelled
  deriving Repr, DecidableEq

abbrev LayoutLexeme := {lexeme : Lexeme // lexeme.isLayout}

/-- A token of the layout at a place; it takes no text. -/
def Token.ofLayout (mark : Mark) (lexeme : LayoutLexeme) : Token where
  lexeme := lexeme.val
  span := ⟨mark, mark⟩
  spelled := Lexeme.isSpelled_of_isLayout lexeme.property

def keywords : List String :=
  ["False", "None", "True", "and", "as", "assert", "async", "await", "break", "class",
   "continue", "def", "del", "elif", "else", "except", "finally", "for", "from", "global", "if",
   "import", "in", "is", "lambda", "nonlocal", "not", "or", "pass", "raise", "return", "try",
   "while", "with", "yield"]

inductive SourceError where
  | nullCharacter
  | strayCharacter (c : Char)
  | badIdentifier (text : String)
  | badNumber
  | unterminatedString
  | badContinuation
  | inconsistentIndentation
  | tooManyIndentations
  | unmatchedBracket
  | tooManyBrackets
  | unclosedBracket
  | badEscape
  | badPlaceholder
  | mixedLiterals
  | unexpected (token : Option Token)
  | tooDeep
  deriving Repr

/-- The place behind a text that starts at `m`. -/
def Mark.after (m : Mark) : List Char → Mark
  | [] => m
  | '\n' :: rest => Mark.after ⟨m.line + 1, 0⟩ rest
  | c :: rest => Mark.after ⟨m.line, m.column + c.utf8Size⟩ rest

end CallDiagram.Source
