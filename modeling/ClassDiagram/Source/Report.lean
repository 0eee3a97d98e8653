import ClassDiagram.Digest.Sha256
import ClassDiagram.Graph.Basic
import ClassDiagram.Source.Buffer
import ClassDiagram.Source.Provider

/-!
# Reports on sources

A report holds the diagram of a collection of source units and the digest of
the buffer it was made from.  Making one fails only if the units cannot be
enumerated; a unit that cannot be read is left out.
-/

namespace ClassDiagram

/-- The diagram of source texts. -/
def graphOfTexts (texts : List String) : Graph :=
  .ofScan (scan (bufferOfTexts texts))

/-- What a scan of the sources finds. -/
structure Report where
  /-- The diagram. -/
  graph : Graph
  /-- The classes in it. -/
  classes : ClassSet
  /-- The relationships in it. -/
  relationships : List Relationship
  /-- The digest of the scanned buffer. -/
  digest : String
deriving DecidableEq

/-- The report on a buffer. -/
def Report.ofBuffer (text : List Char) : Report :=
  let found := scan text
  { graph := .ofScan found
    classes := found.classes
    relationships := found.relationships.entries
    digest := textDigest text }

namespace Provider

/-- The unit at a location. -/
def unitAt (p : Provider) (location : Location) : SourceUnit where
  location := location.toString
  text := (p.read location).mapError SourceError.message

/-- The units at locations. -/
def units (p : Provider) (locations : List Location) : List SourceUnit :=
  locations.map p.unitAt

/-- The report on all units. -/
def report (p : Provider) : Except SourceError Report :=
  p.locate.map fun locations => .ofBuffer (buffer (p.units locations))

/-- The events of making the report. -/
def reportEvents (p : Provider) : List Event :=
  match p.locate with
  | .error _ => []
  | .ok locations =>
      let units := p.units locations
      p.noteworthy locations ++ bufferEvents units ++ scanEvents (buffer units)

end Provider

end ClassDiagram
