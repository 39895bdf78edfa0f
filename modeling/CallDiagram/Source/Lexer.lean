import CallDiagram.Source.Numeral
import CallDiagram.Source.Token
import CallDiagram.Text.Identifier
import CallDiagram.Text.Printable

/-! # Tokens of a text

The text is read line by line. The indentation of a line that is neither blank nor a comment nor
inside brackets is compared with the indentations of the open blocks. Tabs reach to the next
multiple of eight; a second count with tabs of one column must agree in order, so that no reading
depends on the width of a tab.
-/

namespace CallDiagram.Source

open Text

structure Layout where
  /-- Columns of the open blocks, by either width of a tab, innermost first; the outermost is not
  kept. -/
  blocks : List (Nat × Nat)
  /-- The brackets that will close the open ones, innermost first. -/
  closing : List Char
  /-- The current line holds no token. -/
  blank : Bool

def blockLimit : Nat := 99

def bracketLimit : Nat := 200

def Layout.column (layout : Layout) : Nat × Nat :=
  layout.blocks.head?.getD (0, 0)

/-- The indentation of a line by either width of a tab, and where its first character stands.
A line that is continued before any token keeps the first indentation that is not zero. -/
def indentation (wide narrow kept : Nat) : List Char →
    Except SourceError (Nat × Nat × List Char)
  | ' ' :: rest => indentation (wide + 1) (narrow + 1) kept rest
  | '\t' :: rest => indentation ((wide / 8 + 1) * 8) (narrow + 1) kept rest
  | '\x0c' :: rest => indentation 0 0 kept rest
  | '\\' :: '\n' :: rest =>
    if rest.isEmpty then .error .badContinuation
    else indentation wide narrow (if kept = 0 then wide else kept) rest
  | '\\' :: _ => .error .badContinuation
  | rest => if kept = 0 then .ok (wide, narrow, rest) else .ok (kept, kept, rest)

/-- The open blocks that a smaller indentation closes, one by one, and those that remain. -/
def closeBlocks (wide : Nat) : List (Nat × Nat) → Nat × List (Nat × Nat)
  | [] => (0, [])
  | (w, n) :: blocks =>
    if wide < w then
      let (closed, kept) := closeBlocks wide blocks
      (closed + 1, kept)
    else (0, (w, n) :: blocks)

def Layout.startLine (layout : Layout) (wide narrow : Nat) :
    Except SourceError (Layout × List LayoutLexeme) :=
  let (w, n) := layout.column
  if wide = w then
    if narrow = n then .ok (layout, []) else .error .inconsistentIndentation
  else if w < wide then
    if blockLimit ≤ layout.blocks.length then .error .tooManyIndentations
    else if narrow ≤ n then .error .inconsistentIndentation
    else .ok ({ layout with blocks := (wide, narrow) :: layout.blocks }, [⟨.indent, rfl⟩])
  else
    let (closed, blocks) := closeBlocks wide layout.blocks
    if blocks.head?.getD (0, 0) = (wide, narrow) then
      .ok ({ layout with blocks }, List.replicate closed ⟨.dedent, rfl⟩)
    else .error .inconsistentIndentation

/-- What stands between the quotes and how many characters it takes with the closing quotes. A
backslash takes the next character with it. -/
def quotedBody? (quote : Char) (triple : Bool) : List Char → Option (List Char × List Char)
  | [] => none
  | '\\' :: [] => none
  | '\\' :: c :: rest =>
    (quotedBody? quote triple rest).map fun (body, behind) => ('\\' :: c :: body, behind)
  | c :: rest =>
    if triple then
      match c :: rest with
      | a :: b :: d :: behind =>
        if a = quote && b = quote && d = quote then some ([], behind)
        else (quotedBody? quote triple rest).map fun (body, behind) => (c :: body, behind)
      | _ => none
    else if c = quote then some ([], rest)
    else if c = '\n' then none
    else (quotedBody? quote triple rest).map fun (body, behind) => (c :: body, behind)

def literalLetters : List (List Char) :=
  [[], ['r'], ['u'], ['b'], ['f'], ['b', 'r'], ['r', 'b'], ['f', 'r'], ['r', 'f']]

/-- The letters at the start of a text, if a string literal starts there. -/
def literalStart? (cs : List Char) : Option (List Char × Char × List Char) :=
  let letters := cs.takeWhile Char.isAlpha
  match cs.dropWhile Char.isAlpha with
  | quote :: rest =>
    if (quote = '\'' || quote = '"') && literalLetters.contains (letters.map Char.toLower) then
      some (letters, quote, rest)
    else none
  | [] => none

def literal (start : Mark) (letters : List Char) (quote : Char) (rest : List Char) :
    Except SourceError (Lexeme × List Char) :=
  let small := letters.map Char.toLower
  let (triple, behind) := match rest with
    | a :: b :: behind => if a = quote && b = quote then (true, behind) else (false, rest)
    | _ => (false, rest)
  match quotedBody? quote triple behind with
  | none => .error .unterminatedString
  | some (body, behind) =>
    .ok (.literal
      { raw := small.contains 'r', bytes := small.contains 'b', formatted := small.contains 'f'
        start, opening := letters ++ List.replicate (if triple then 3 else 1) quote, body },
      behind)

/-- Operators and delimiters, longest first. -/
def operators : List (List Char) :=
  ["**=", "//=", ">>=", "<<=", "...", "!=", "%=", "&=", "**", "*=", "+=", "-=", "->", "//", "/=",
   ":=", "<<", "<=", "<>", "==", ">=", ">>", "@=", "^=", "|=", "%", "&", "(", ")", "*", "+", ",",
   "-", ".", "/", ":", ";", "<", "=", ">", "@", "[", "]", "^", "\x7b", "|", "\x7d", "~"].map
    String.toList

/-- The lexeme at the start of a text, where no blank stands, and the text behind it. -/
def lexeme (start : Mark) (cs : List Char) : Except SourceError (Lexeme × List Char) :=
  match literalStart? cs, cs with
  | some (letters, quote, rest), _ => literal start letters quote rest
  | none, [] => .error (.unexpected none)
  | none, c :: rest =>
    if isDecimal c || (c = '.' && (rest.head?.map isDecimal).getD false) then
      match numeral? cs with
      | some n => .ok (.number n.imaginary, n.rest)
      | none => .error .badNumber
    else if prolongsWord c then
      let text := cs.takeWhile prolongsWord
      if text.all (·.toNat < 128) || isIdentifier text then
        .ok (.word (String.ofList text), cs.dropWhile prolongsWord)
      else .error (.badIdentifier (String.ofList text))
    else match operators.find? (·.isPrefixOf cs) with
      | some op => .ok (.operator (String.ofList op), cs.drop op.length)
      | none => .error (.strayCharacter c)

/-- A word is read as far as there are characters that prolong it. -/
theorem isSpelled_lexeme {start : Mark} {cs rest : List Char} {l : Lexeme}
    (h : lexeme start cs = .ok (l, rest)) : l.IsSpelled := by
  unfold lexeme at h
  split at h
  · unfold literal at h
    dsimp only at h
    split at h
    · cases h
    · cases h
      trivial
  · cases h
  · split at h
    · split at h
      · cases h
        trivial
      · cases h
    · split at h
      · dsimp only at h
        split at h
        · cases h
          rw [Lexeme.IsSpelled, IsWord, String.toList_ofList]
          exact List.all_takeWhile
        · cases h
      · split at h
        · cases h
          trivial
        · cases h

def closer? : String → Option Char
  | "(" => some ')'
  | "[" => some ']'
  | "\x7b" => some '\x7d'
  | _ => none

def Layout.bracket (layout : Layout) (op : String) : Except SourceError Layout :=
  match closer? op with
  | some c =>
    if bracketLimit ≤ layout.closing.length then .error .tooManyBrackets
    else .ok { layout with closing := c :: layout.closing }
  | none =>
    if op = ")" || op = "]" || op = "\x7d" then
      match layout.closing with
      | c :: closing =>
        if op = c.toString then .ok { layout with closing } else .error .unmatchedBracket
      | [] => .error .unmatchedBracket
    else .ok layout

/-- The layout at the start of a line, the layout tokens there, and the rest of the line. -/
def lineStart (layout : Layout) (cs : List Char) :
    Except SourceError (Layout × List LayoutLexeme × List Char) := do
  let (wide, narrow, rest) ← indentation 0 0 0 cs
  if rest.head? = some '#' || rest.head? = some '\n' then
    return ({ layout with blank := true }, [], rest)
  if !layout.closing.isEmpty then
    return ({ layout with blank := false }, [], rest)
  let (layout, marks) ← layout.startLine wide narrow
  return ({ layout with blank := false }, marks, rest)

/-- The tokens of the rest of a text, `done` those before it, last first. Every round takes at
least one character. -/
def tokensFrom (layout : Layout) (m : Mark) (done : List Token) (cs : List Char) :
    Except SourceError (List Token) :=
  match cs with
  | [] =>
    if layout.closing.isEmpty then .ok (⟨.finish, ⟨m, m⟩, trivial⟩ :: done).reverse
    else .error .unclosedBracket
  | c :: rest =>
    if c = ' ' || c = '\t' || c = '\x0c' then tokensFrom layout (m.after [c]) done rest
    else if c = '#' then
      let comment := rest.takeWhile (· ≠ '\n')
      tokensFrom layout (m.after (c :: comment)) done (rest.drop comment.length)
    else if c = '\n' then
      let next := m.after [c]
      let done := if layout.blank || !layout.closing.isEmpty then done
        else ⟨.newline, ⟨m, next⟩, trivial⟩ :: done
      match lineStart layout rest with
      | .error e => .error e
      | .ok (layout, marks, behind) =>
        let taken := rest.length - behind.length
        let start := next.after (rest.take taken)
        tokensFrom layout start (marks.map (.ofLayout start) ++ done) (rest.drop taken)
    else if c = '\\' then
      match rest with
      | '\n' :: d :: behind => tokensFrom layout (m.after [c, '\n']) done (d :: behind)
      | _ => .error .badContinuation
    else
      match h : lexeme m cs with
      | .error e => .error e
      | .ok (lexeme, behind) =>
        let taken := rest.length - behind.length
        let stop := m.after (cs.take (taken + 1))
        let token : Token := ⟨lexeme, ⟨m, stop⟩, isSpelled_lexeme h⟩
        match lexeme with
        | .operator op =>
          match layout.bracket op with
          | .error e => .error e
          | .ok layout => tokensFrom layout stop (token :: done) (rest.drop taken)
        | _ => tokensFrom layout stop (token :: done) (rest.drop taken)
termination_by cs.length
decreasing_by all_goals simp only [List.length_cons, List.length_drop]; omega

/-- The tokens of a text that ends with a line end and whose first character stands at `start`. -/
def tokens (start : Mark) (cs : List Char) : Except SourceError (List Token) := do
  if cs.any (· = '\x00') then throw .nullCharacter
  let (layout, marks, rest) ← lineStart ⟨[], [], false⟩ cs
  let first := start.after (cs.take (cs.length - rest.length))
  tokensFrom layout first (marks.map (.ofLayout first)) rest

end CallDiagram.Source
