import CallDiagram.Hierarchy.Item
import CallDiagram.Table

/-! # Indexed modules

What the index knows of one source file: its imports, functions and classes, and the calls made
in the body of each definition.
-/

namespace CallDiagram.Index

/-- A call: the called name, where it stands, and what it is called on. -/
structure CallReference where
  name : String
  range : Range
  /-- The dotted name before the called one, where the call is through an attribute of one. -/
  receiver : Option String
  isAttribute : Bool
  deriving Repr, DecidableEq

structure Definition where
  item : Item
  /-- The class whose body the definition stands in. -/
  className : Option String
  calls : List CallReference
  /-- The classes of local variables, as far as assignments and annotations show them. -/
  localTypes : Table String String
  deriving Repr, DecidableEq

structure ClassInfo where
  name : String
  item : Item
  bases : List String
  methods : Table String Item
  /-- The classes of instance attributes. -/
  attributeTypes : Table String String
  deriving Repr, DecidableEq

structure Module where
  path : String
  name : String
  isPackage : Bool
  /-- Local names and the dotted names that they stand for. -/
  imports : Table String String
  /-- The functions that are not inside a class or function. -/
  functions : Table String Item
  /-- All class statements in the order in which they start. -/
  classStatements : List ClassInfo
  /-- The classes that are not inside a function, by the place of their statement. -/
  classPlaces : Table String Nat
  definitions : List Definition
  deriving Repr, DecidableEq

def Module.class? (m : Module) (name : String) : Option ClassInfo :=
  m.classPlaces.get? name >>= (m.classStatements[·]?)

def Module.classes (m : Module) : List ClassInfo :=
  m.classPlaces.values.filterMap (m.classStatements[·]?)

/-- The function or class of a name, functions first. -/
def Module.member? (m : Module) (name : String) : Option Item :=
  match m.functions.get? name with
  | some item => some item
  | none => (m.class? name).map (·.item)

end CallDiagram.Index
