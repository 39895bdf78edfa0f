/-! # Traces

The protocol of a traversal: each message is indented by the depth of the call that it belongs to.
-/

namespace CallDiagram

structure TraceStyle where
  /-- How deep the current call is nested. -/
  level : Nat := 0
  isColoured : Bool := false
  deriving Repr, DecidableEq, Inhabited

namespace TraceStyle

def indent (s : TraceStyle) : TraceStyle :=
  { s with level := s.level + 1 }

/-- One level up, but never above the outermost. -/
def outdent (s : TraceStyle) : TraceStyle :=
  { s with level := s.level - 1 }

def reset (s : TraceStyle) : TraceStyle :=
  { s with level := 0 }

/-- A message behind two spaces for each level. -/
def indented (s : TraceStyle) (message : String) : String :=
  String.ofList (List.replicate (2 * s.level) ' ') ++ message

def coloured (s : TraceStyle) (colour : Nat) (text : String) : String :=
  if s.isColoured then s!"\x1b[{colour}m" ++ text ++ "\x1b[0m" else text

def method (s : TraceStyle) (name : String) : String :=
  s.coloured 33 (name ++ "()")

def object (s : TraceStyle) (name : String) : String :=
  s.coloured 32 name

end TraceStyle

inductive Severity where
  | info
  | warning
  deriving Repr, DecidableEq, Inhabited

structure TraceLine where
  severity : Severity
  text : String
  deriving Repr, DecidableEq, Inhabited

end CallDiagram
