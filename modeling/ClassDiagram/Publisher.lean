import ClassDiagram.Source.Report

/-!
# Publishing reports

A publisher holds the report that was published last and counts the
publications.  Publishing tells whether the sources changed, by comparing
digests.  A refresh makes a new report of the sources and publishes it, and
leaves everything as it was if no report can be made.

Main results:

- `Publisher.latest_publish`: the report just published is the latest.
-/

namespace ClassDiagram

/-- A published report. -/
structure Publication where
  /-- The number of the publication, counted from one. -/
  generation : UInt64
  /-- The report. -/
  report : Report
deriving DecidableEq

/-- A place for the latest report. -/
structure Publisher where
  /-- The latest publication, if there is one. -/
  latest : Option Publication := none
deriving DecidableEq

namespace Publisher

/-- The publisher before any publication. -/
def empty : Publisher := {}

/-- Whether the report would be the first or differ in its sources from the
latest one. -/
def isNews (p : Publisher) (report : Report) : Bool :=
  match p.latest with
  | none => true
  | some previous => previous.report.digest != report.digest

/-- The number of the next publication. -/
def nextGeneration (p : Publisher) : UInt64 :=
  match p.latest with
  | none => 1
  | some previous => previous.generation + 1

/-- Publishes a report. -/
def publish (p : Publisher) (report : Report) : Publisher where
  latest := some ⟨p.nextGeneration, report⟩

@[simp] theorem latest_publish (p : Publisher) (report : Report) :
    (p.publish report).latest = some ⟨p.nextGeneration, report⟩ := rfl

/-- The event of publishing a report. -/
def publishEvent (p : Publisher) (report : Report) : Event :=
  .diagramPublished p.nextGeneration (p.isNews report) report.graph.edges.length

/-- Publishes the report on the sources, if one can be made, and tells whether
it is news. -/
def refresh (p : Publisher) (sources : Provider) : Publisher × Except SourceError Bool :=
  match sources.report with
  | .ok report => (p.publish report, .ok (p.isNews report))
  | .error e => (p, .error e)

theorem refresh_of_ok {p : Publisher} {sources : Provider} {report : Report}
    (h : sources.report = .ok report) :
    p.refresh sources = (p.publish report, .ok (p.isNews report)) := by
  rw [refresh, h]

theorem refresh_of_error {p : Publisher} {sources : Provider} {e : SourceError}
    (h : sources.report = .error e) : p.refresh sources = (p, .error e) := by
  rw [refresh, h]

/-- The events of a refresh. -/
def refreshEvents (p : Publisher) (sources : Provider) : List Event :=
  sources.reportEvents ++
    match sources.report with
    | .ok report => [p.publishEvent report]
    | .error _ => []

end Publisher

end ClassDiagram
