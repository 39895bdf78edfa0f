import CallDiagram.Source.Token

/-! # Reading tokens

A parser takes tokens from the front of a list, or fails and takes none: what it leaves is an end of
what was there. Repetition ends when nothing more is taken, so it always ends.
-/

namespace CallDiagram.Source

/-- The tokens that are left, and where the last token that is more than layout ended. -/
structure Cursor where
  rest : List Token
  last : Mark

/-- What is read at the cursor `c`, and the cursor behind it. -/
abbrev Reading (α : Type) (c : Cursor) := {r : α × Cursor // r.2.rest <:+ c.rest}

def Parser (α : Type) := (c : Cursor) → Except SourceError (Reading α c)

namespace Parser

variable {α : Type}

instance : Monad Parser where
  pure a c := .ok ⟨(a, c), List.suffix_rfl⟩
  bind p q c := match p c with
    | .error e => .error e
    | .ok ⟨(a, behind), taken⟩ => match q a behind with
      | .error e => .error e
      | .ok ⟨r, further⟩ => .ok ⟨r, further.trans taken⟩

instance : MonadLift (Except SourceError) Parser where
  monadLift x c := x.map fun a => ⟨(a, c), List.suffix_rfl⟩

def failWith (e : SourceError) : Parser α := fun _ => .error e

/-- Says something of the cursor and leaves it where it is. -/
def look (f : Cursor → α) : Parser α := fun c => .ok ⟨(f c, c), List.suffix_rfl⟩

def peek : Parser Lexeme := look fun c => (c.rest.head?.map (·.lexeme)).getD .finish

def peekSecond : Parser Lexeme := look fun c =>
  ((c.rest.drop 1).head?.map (·.lexeme)).getD .finish

/-- How many tokens are left. -/
def remaining : Parser Nat := look fun c => c.rest.length

def fail : Parser α := fun c => .error (.unexpected c.rest.head?)

def next : Parser Token := fun c =>
  match h : c.rest with
  | [] => .error (.unexpected none)
  | t :: rest =>
    .ok ⟨(t, ⟨rest, if t.lexeme.isLayout then c.last else t.span.stop⟩), h ▸ List.suffix_cons ..⟩

def accept (lexeme : Lexeme) : Parser Bool := do
  if (← peek) = lexeme then
    let _ ← next
    return true
  else return false

def expect (lexeme : Lexeme) : Parser Unit := do
  if !(← accept lexeme) then fail

def sees (lexeme : Lexeme) : Parser Bool :=
  return (← peek) = lexeme

/-- The second reading where the first one fails. -/
def orElse (p q : Parser α) : Parser α := fun c =>
  match p c with
  | .ok r => .ok r
  | .error _ => q c

def attempt (p : Parser α) : Parser (Option α) :=
  orElse (some <$> p) (pure none)

/-- Repeats a reading as long as it succeeds and takes something. -/
def manyFrom (p : Parser α) (c : Cursor) : Reading (List α) c :=
  match p c with
  | .error _ => ⟨([], c), List.suffix_rfl⟩
  | .ok ⟨(a, rest), taken⟩ =>
    if rest.rest.length < c.rest.length then
      let ⟨(as, behind), further⟩ := manyFrom p rest
      ⟨(a :: as, behind), further.trans taken⟩
    else ⟨([a], rest), taken⟩
termination_by c.rest.length

def many (p : Parser α) : Parser (List α) := fun c =>
  .ok (manyFrom p c)

/-- One reading after each token that `p` accepts, as long as it accepts one. A failing reading
fails the whole. -/
def whileAccepted (p : Parser Bool) (q : Parser α) : Parser (List α) := fun c =>
  follow c.rest.length c
where
  follow : Nat → Parser (List α)
    | 0 => pure []
    | n + 1 => do
      if ← p then
        let a ← q
        return a :: (← follow n)
      else return []

/-- The readings between commas, at least one, and whether a comma ends them. -/
def commaList (p : Parser α) : Parser (List α × Bool) := do
  let first ← p
  let others ← many (do expect (.operator ","); p)
  return (first :: others, ← accept (.operator ","))

def op (text : String) : Parser Unit := expect (.operator text)

def word (text : String) : Parser Unit := expect (.word text)

/-- Takes an identifier and says where it stands. -/
def identifier : Parser ({text : String // IsWord text} × Span) := do
  match ← next with
  | ⟨.word text, span, spelled⟩ =>
    if keywords.contains text then fail else return (⟨text, spelled⟩, span)
  | _ => fail

def name : Parser String := (·.1.val) <$> identifier

end Parser

end CallDiagram.Source
