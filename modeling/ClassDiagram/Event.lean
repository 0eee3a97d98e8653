import ClassDiagram.Class.Name

/-!
# Events

What is worth noting while sources are scanned and diagrams published, besides
the results themselves.
-/

namespace ClassDiagram

/-- How much attention an event asks for. -/
inductive Level
  | debug
  | info
  | warn
deriving DecidableEq, Repr

/-- An event of a scan or a publication. -/
inductive Event
  /-- A source unit could not be read and was left out. -/
  | unitSkipped (location : String) (reason : String)
  /-- No brace follows the declaration of a class. -/
  | bodyMissing (name : ClassName)
  /-- A class that has a definition already was declared again. -/
  | declaredAgain (name : ClassName)
  /-- A scan ended. -/
  | scanned (bufferLength classes definitions relationships : Nat)
  /-- A directory tree was searched for source units. -/
  | unitsLocated (root : String) (units : Nat)
  /-- A report took the place of the one before. -/
  | diagramPublished (generation : UInt64) (changed : Bool) (edges : Nat)
deriving DecidableEq

namespace Event

/-- The attention that the event asks for. -/
def level : Event → Level
  | unitSkipped .. => .warn
  | scanned .. => .info
  | bodyMissing _ | declaredAgain _ | unitsLocated .. | diagramPublished .. => .debug

/-- The event in words. -/
def message : Event → String
  | unitSkipped .. => "skipping unreadable source unit"
  | bodyMissing _ => "declaration has no body"
  | declaredAgain _ => "duplicate declaration, keeping first body"
  | scanned .. => "scan complete"
  | unitsLocated .. => "located source units"
  | diagramPublished .. => "published diagram"

end Event

end ClassDiagram
