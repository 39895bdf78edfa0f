import CallDiagram.Source.Token
import CallDiagram.Source.Numeral

/-! # String literals

The text that a literal stands for, and the placeholders of a formatted one. A placeholder is an
expression between braces, with an optional sign that its text is to be shown, conversion and
format; a format may hold placeholders, whose formats hold none.
-/

namespace CallDiagram.Source

def hexNumber? (cs : List Char) : Option Nat :=
  cs.foldlM (fun value c => (Text.hexValue? c).map (value * 16 + ·)) 0

/-- The character of a code point; U+FFFD stands for a half of a surrogate pair. -/
def charOfCode (code : Nat) : Char :=
  if 0xD800 ≤ code && code ≤ 0xDFFF then '\uFFFD' else Char.ofNat code

def isOctal (c : Char) : Bool :=
  '0' ≤ c && c ≤ '7'

def octalNumber (cs : List Char) : Nat :=
  cs.foldl (fun value c => value * 8 + (c.toNat - '0'.toNat)) 0

/-- What a backslash and the text behind it stand for, and how many characters of the text it
takes. An unknown escape stands for itself. -/
def escape : List Char → Except SourceError (List Char × Nat)
  | [] => .ok (['\\'], 0)
  | c :: rest =>
    match c with
    | '\n' => .ok ([], 1)
    | '\\' => .ok (['\\'], 1)
    | '\'' => .ok (['\''], 1)
    | '"' => .ok (['"'], 1)
    | 'a' => .ok (['\x07'], 1)
    | 'b' => .ok (['\x08'], 1)
    | 'f' => .ok (['\x0c'], 1)
    | 'n' => .ok (['\n'], 1)
    | 'r' => .ok (['\r'], 1)
    | 't' => .ok (['\t'], 1)
    | 'v' => .ok (['\x0b'], 1)
    | 'x' => code 2 rest
    | 'u' => code 4 rest
    | 'U' => code 8 rest
    | 'N' =>
      match rest with
      | '\x7b' :: name =>
        let length := (name.takeWhile (· ≠ '\x7d')).length
        if length = 0 || length = name.length then .error .badEscape
        else .ok (['\uFFFD'], length + 3)
      | _ => .error .badEscape
    | _ =>
      if isOctal c then
        let digits := ((c :: rest).take 3).takeWhile isOctal
        .ok ([charOfCode (octalNumber digits)], digits.length)
      else .ok (['\\', c], 1)
where
  code (width : Nat) (cs : List Char) : Except SourceError (List Char × Nat) :=
    match hexNumber? (cs.take width) with
    | some code =>
      if cs.length < width || 0x10FFFF < code then .error .badEscape
      else .ok ([charOfCode code], width + 1)
    | none => .error .badEscape

def unescape (cs : List Char) : Except SourceError (List Char) :=
  match cs with
  | [] => .ok []
  | '\\' :: rest =>
    match escape rest with
    | .error e => .error e
    | .ok (written, taken) => (unescape (rest.drop taken)).map (written ++ ·)
  | c :: rest => (unescape rest).map (c :: ·)
termination_by cs.length
decreasing_by all_goals simp only [List.length_cons, List.length_drop]; omega

/-- Whether the body of a literal of bytes may be written so: in ASCII, and each `\x` with two
digits. -/
def bytesAllowed (raw : Bool) (cs : List Char) : Bool :=
  cs.all (·.toNat < 128) && (raw || escapesAllowed cs)
where
  escapesAllowed : List Char → Bool
    | [] => true
    | '\\' :: 'x' :: a :: b :: rest =>
      isHexadecimal a && isHexadecimal b && escapesAllowed rest
    | '\\' :: 'x' :: _ => false
    | '\\' :: _ :: rest => escapesAllowed rest
    | _ :: rest => escapesAllowed rest

/-- An expression in a formatted literal: where its opening brace stands, and its text. -/
structure Placeholder where
  mark : Mark
  text : List Char
  deriving Repr, DecidableEq

def placeholderBracketLimit : Nat := 200

/-- The text of a placeholder up to what ends it, and the rest from there on. `quote` is the quote
of the string that the text is in, and whether it is one of three; `closing` holds the brackets
that will close the open ones. -/
def placeholderText (quote : Option (Char × Bool)) (closing : List Char) (cs : List Char) :
    Except SourceError (List Char × List Char) :=
  match cs with
  | [] => .error .badPlaceholder
  | c :: rest =>
    let take (n : Nat) (quote : Option (Char × Bool)) (closing : List Char) :=
      (placeholderText quote closing (rest.drop n)).map fun (text, behind) =>
        (c :: rest.take n ++ text, behind)
    let tripled := rest.take 2 == [c, c]
    if c = '\\' then .error .badPlaceholder else
    match quote with
    | some (q, triple) =>
      if c ≠ q then take 0 quote closing
      else if !triple then take 0 none closing
      else if tripled then take 2 none closing
      else take 0 quote closing
    | none =>
      if c = '\'' || c = '"' then
        if tripled then take 2 (some (c, true)) closing else take 0 (some (c, false)) closing
      else if c = '(' || c = '[' || c = '\x7b' then
        if placeholderBracketLimit ≤ closing.length then .error .badPlaceholder
        else take 0 none ((if c = '(' then ')' else if c = '[' then ']' else '\x7d') :: closing)
      else if c = '#' then .error .badPlaceholder
      else if closing.isEmpty && ['!', '=', '<', '>'].contains c && rest.head? = some '=' then
        take 1 none closing
      else if closing.isEmpty && ['!', ':', '\x7d', '='].contains c then .ok ([], c :: rest)
      else if c = ')' || c = ']' || c = '\x7d' then
        match closing with
        | d :: closing => if c = d then take 0 none closing else .error .badPlaceholder
        | [] => .error .badPlaceholder
      else take 0 none closing
termination_by cs.length
decreasing_by all_goals simp only [List.length_cons, List.length_drop]; omega

def isSignBlank (c : Char) : Bool :=
  c == ' ' || ('\t' ≤ c && c ≤ '\r')

/-- How a placeholder ends behind its expression: whether a format follows, and the rest. -/
def placeholderEnd (cs : List Char) : Except SourceError (Bool × List Char) :=
  let behindSign := match cs with
    | '=' :: rest => rest.dropWhile isSignBlank
    | _ => cs
  let behindConversion := match behindSign with
    | '!' :: c :: rest => if c = 's' || c = 'r' || c = 'a' then some rest else none
    | '!' :: [] => none
    | rest => some rest
  match behindConversion with
  | some (':' :: rest) => if rest.isEmpty then .error .badPlaceholder else .ok (true, rest)
  | some ('\x7d' :: rest) => .ok (false, rest)
  | _ => .error .badPlaceholder

/-- The placeholders of the rest of a literal. `formats` counts the formats that the text is in,
`m` is where it starts, `part` is the plain text before it, last character first. -/
def placeholdersFrom (raw : Bool) (formats : Nat) (m : Mark) (part : List Char) (cs : List Char) :
    Except SourceError (List Placeholder) :=
  match cs with
  | [] =>
    if formats ≠ 0 then .error .badPlaceholder else (checked part).map fun _ => []
  | c :: rest =>
    let plain (n : Nat) :=
      placeholdersFrom raw formats (m.after (c :: rest.take n)) ((c :: rest.take n).reverse ++ part)
        (rest.drop n)
    if !raw && c = '\\' then
      match rest with
      | 'N' :: '\x7b' :: name => plain ((name.takeWhile (· ≠ '\x7d')).length + 3)
      | d :: _ => if d = '\x7b' || d = '\x7d' then plain 0 else plain 1
      | [] => plain 0
    else if c ≠ '\x7b' && c ≠ '\x7d' then plain 0
    else if formats = 0 && rest.head? = some c then
      (checked (c :: part)).bind fun _ =>
        placeholdersFrom raw formats (m.after [c, c]) [] (rest.drop 1)
    else (checked part).bind fun _ =>
      if c = '\x7d' then
        if formats = 0 then .error .badPlaceholder
        else placeholdersFrom raw (formats - 1) (m.after [c]) [] rest
      else if 2 ≤ formats then .error .badPlaceholder
      else
        match placeholderText none [] rest with
        | .error e => .error e
        | .ok (text, behind) =>
          if text.all fun c => c = ' ' || c = '\t' || c = '\n' || c = '\x0c' then
            .error .badPlaceholder
          else match placeholderEnd behind with
            | .error e => .error e
            | .ok (format, behind) =>
              let taken := rest.length - behind.length
              let formats := if format then formats + 1 else formats
              let next := m.after (c :: rest.take taken)
              (placeholdersFrom raw formats next [] (rest.drop taken)).map (⟨m, text⟩ :: ·)
termination_by cs.length
decreasing_by all_goals simp only [List.length_cons, List.length_drop]; omega
where
  checked (part : List Char) : Except SourceError Unit :=
    if raw then .ok () else (unescape part.reverse).map fun _ => ()

def Literal.placeholders (l : Literal) : Except SourceError (List Placeholder) :=
  placeholdersFrom l.raw 0 (l.start.after l.opening) [] l.body

def Literal.text (l : Literal) : Except SourceError (List Char) :=
  if l.raw then .ok l.body else unescape l.body

end CallDiagram.Source
