import CallDiagram.CallSite.Reading

/-! # The order of call sites

A hierarchy lists the calls of a function by callee. Here they are put into the order in which they
are carried out: arguments are evaluated before the call that they belong to, and all else goes
from left to right.
-/

namespace CallDiagram

structure CallSite where
  target : Item
  /-- Where the called name stands. -/
  range : Range
  reading : SiteReading
  deriving Repr, DecidableEq, Inhabited

def flattenCalls (calls : List OutgoingCall) : List (Item × Range) :=
  calls.flatMap fun call => call.ranges.map (call.target, ·)

namespace CallSite

/-- Whether a call site lies inside the arguments of another one. -/
def isNestedIn (inner outer : CallSite) : Bool :=
  match outer.reading.argumentRange with
  | some arguments => arguments.contains inner.range
  | none => false

def precedes (a b : CallSite) : Bool :=
  a.isNestedIn b || (!b.isNestedIn a && a.range.start.lt b.range.start)

/-- Call sites in the order in which they are carried out; equal ones keep their places. So it is
where of two call sites one lies inside the arguments of the other or they are apart. Where the
range of one crosses the arguments of another, `precedes` is no order: this is then one arrangement
of the call sites, and another way of sorting may give another. -/
def inOrder (sites : List CallSite) : List CallSite :=
  sites.mergeSort fun a b => !b.precedes a

end CallSite

end CallDiagram
