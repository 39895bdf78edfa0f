import CallDiagram.Text.Quoted

/-! # Text in JSON

How a text is written in JSON that holds ASCII characters only: all others are written as escapes
of their UTF-16 units.
-/

namespace CallDiagram.Text

/-- A UTF-16 unit as an escape. -/
def unitEscape (unit : Nat) : List Char :=
  '\\' :: 'u' :: hex 4 unit

def jsonChar (c : Char) : List Char :=
  match c with
  | '"' => ['\\', '"']
  | '\\' => ['\\', '\\']
  | '\n' => ['\\', 'n']
  | '\r' => ['\\', 'r']
  | '\t' => ['\\', 't']
  | '\x08' => ['\\', 'b']
  | '\x0c' => ['\\', 'f']
  | c =>
    if ' ' ≤ c ∧ c ≤ '~' then [c]
    else if c.toNat < 0x10000 then unitEscape c.toNat
    else
      let above := c.toNat - 0x10000
      unitEscape (0xD800 + above / 0x400) ++ unitEscape (0xDC00 + above % 0x400)

def jsonText (s : String) : String :=
  String.ofList (['"'] ++ s.toList.flatMap jsonChar ++ ['"'])

end CallDiagram.Text
