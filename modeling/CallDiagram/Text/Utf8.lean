import CallDiagram.Text.Quoted

/-! # Reading UTF-8

Text read from bytes. Bytes that are no UTF-8 are replaced: each longest beginning of a character
that is not completed, and each byte that begins none, becomes one U+FFFD. Where they are not
replaced, the first of them are an error.
-/

namespace CallDiagram.Text

/-- What a first byte announces: how many bytes follow, the bounds of the first of them, and the
bits that the first byte contributes. -/
def utf8Lead? (b : Nat) : Option (Nat × Nat × Nat × Nat) :=
  if b < 0x80 then some (0, 0, 0, b)
  else if 0xC2 ≤ b && b ≤ 0xDF then some (1, 0x80, 0xBF, b - 0xC0)
  else if b = 0xE0 then some (2, 0xA0, 0xBF, 0)
  else if b = 0xED then some (2, 0x80, 0x9F, 0xD)
  else if 0xE1 ≤ b && b ≤ 0xEF then some (2, 0x80, 0xBF, b - 0xE0)
  else if b = 0xF0 then some (3, 0x90, 0xBF, 0)
  else if 0xF1 ≤ b && b ≤ 0xF3 then some (3, 0x80, 0xBF, b - 0xF0)
  else if b = 0xF4 then some (3, 0x80, 0x8F, 4)
  else none

/-- The bytes that complete a character: its code point if all are there, and how many were. -/
def utf8Tail (count low high code : Nat) (taken : Nat) : List UInt8 → Option Nat × Nat
  | bytes =>
    match count with
    | 0 => (some code, taken)
    | count + 1 =>
      match bytes with
      | [] => (none, taken)
      | b :: rest =>
        if low ≤ b.toNat && b.toNat ≤ high then
          utf8Tail count 0x80 0xBF (code * 64 + (b.toNat - 0x80)) (taken + 1) rest
        else (none, taken)

/-- The characters that bytes spell, with U+FFFD for what is no UTF-8. -/
def decodeBytes : List UInt8 → List Char
  | [] => []
  | b :: rest =>
    match utf8Lead? b.toNat with
    | none => '\uFFFD' :: decodeBytes rest
    | some (count, low, high, bits) =>
      match utf8Tail count low high bits 0 rest with
      | (some code, taken) => Char.ofNat code :: decodeBytes (rest.drop taken)
      | (none, taken) => '\uFFFD' :: decodeBytes (rest.drop taken)
termination_by bytes => bytes.length
decreasing_by all_goals simp only [List.length_cons, List.length_drop]; omega

def decodeUtf8 (bytes : ByteArray) : String :=
  String.ofList (decodeBytes bytes.toList)

/-- Bytes that are no UTF-8: where the first of them stands, those that belong together, and what is
wrong with them. -/
structure Utf8Error where
  position : Nat
  bytes : List UInt8
  reason : String
  deriving Repr, DecidableEq

def Utf8Error.message (e : Utf8Error) : String :=
  let which := match e.bytes with
    | [b] => s!"byte 0x{String.ofList (hex 2 b.toNat)} in position {e.position}"
    | bytes => s!"bytes in position {e.position}-{e.position + bytes.length - 1}"
  "'utf-8' codec can't decode " ++ which ++ ": " ++ e.reason

/-- The first bytes from a position on that are no UTF-8. -/
def firstError? (position : Nat) : List UInt8 → Option Utf8Error
  | [] => none
  | b :: rest =>
    match utf8Lead? b.toNat with
    | none => some ⟨position, [b], "invalid start byte"⟩
    | some (count, low, high, bits) =>
      match utf8Tail count low high bits 0 rest with
      | (some _, taken) => firstError? (position + 1 + taken) (rest.drop taken)
      | (none, taken) =>
        let reason :=
          if taken = rest.length then "unexpected end of data" else "invalid continuation byte"
        some ⟨position, b :: rest.take taken, reason⟩
termination_by bytes => bytes.length
decreasing_by simp only [List.length_cons, List.length_drop]; omega

/-- The text that bytes spell, if they are UTF-8. -/
def readUtf8 (bytes : ByteArray) : Except Utf8Error String :=
  match firstError? 0 bytes.toList with
  | some e => .error e
  | none => .ok (decodeUtf8 bytes)

/-- Line ends in one form: a carriage return, alone or before a line feed, becomes a line feed. -/
def unifyLineEnds : List Char → List Char
  | [] => []
  | '\r' :: '\n' :: rest => '\n' :: unifyLineEnds rest
  | '\r' :: rest => '\n' :: unifyLineEnds rest
  | c :: rest => c :: unifyLineEnds rest

end CallDiagram.Text
