import ClassDiagram.Source.Report
import ClassDiagram.Source.Workspace
import Mathlib.Data.List.ReduceOption

/-!
# Reports on readable units

A report is made from the units that a provider locates, whether or not they can be
read; the diagram of texts is made from texts that are all at hand.  The two agree: a
unit that cannot be read leaves no trace in the report, so that the report is that of the
readable texts in the order of their units.

Main results:

- Theorem `Provider.report_eq_map`: the report of a provider is that of its readable
  texts, and fails exactly as locating the units does.
- Theorems `MemorySources.report_provider` and `Workspace.report_provider`: what this says
  of units in memory and of files.
- Theorem `Provider.report_eq_ofTexts`: providers of the same readable texts have the same
  report, wherever units that cannot be read stand among them.
-/

namespace ClassDiagram

/-! ## Readable texts -/

namespace Provider

/-- The texts of the units at locations that can be read, in the order of the
locations. -/
def texts (p : Provider) (locations : List Location) : List String :=
  locations.filterMap fun location => (p.read location).toOption

variable {p : Provider} {locations : List Location} {location : Location}

theorem texts_cons_of_ok {text : String} (h : p.read location = .ok text) :
    p.texts (location :: locations) = text :: p.texts locations :=
  List.filterMap_cons_some (by rw [h]; rfl)

theorem texts_cons_of_error {e : SourceError} (h : p.read location = .error e) :
    p.texts (location :: locations) = p.texts locations :=
  List.filterMap_cons_none (by rw [h]; rfl)

theorem contribution_of_ok {text : String} (h : p.read location = .ok text) :
    (p.unitAt location).contribution = text.toList ++ [unitSeparator] := by
  rw [SourceUnit.contribution, unitAt, h]
  rfl

theorem contribution_of_error {e : SourceError} (h : p.read location = .error e) :
    (p.unitAt location).contribution = [] := by
  rw [SourceUnit.contribution, unitAt, h]
  rfl

/-- The buffer of located units is the buffer of the texts that can be read. -/
theorem buffer_units (p : Provider) (locations : List Location) :
    buffer (p.units locations) = bufferOfTexts (p.texts locations) := by
  induction locations with
  | nil => rfl
  | cons location locations ih =>
      have hcons : buffer (p.units (location :: locations)) =
          (p.unitAt location).contribution ++ buffer (p.units locations) :=
        List.flatMap_cons
      rw [hcons, ih]
      cases hread : p.read location with
      | ok text =>
          rw [contribution_of_ok hread, texts_cons_of_ok hread, bufferOfTexts_cons,
            List.append_assoc, List.singleton_append]
      | error e => rw [contribution_of_error hread, texts_cons_of_error hread, List.nil_append]

end Provider

/-! ## Reports on texts -/

/-- The report on texts that are all at hand. -/
def Report.ofTexts (texts : List String) : Report where
  graph := graphOfTexts texts
  classes := (scan (bufferOfTexts texts)).classes
  relationships := (scan (bufferOfTexts texts)).relationships.entries
  digest := textDigest (texts.flatMap fun text => text.toList ++ ['\n'])

theorem Report.ofBuffer_bufferOfTexts (texts : List String) :
    ofBuffer (bufferOfTexts texts) = ofTexts texts := by
  have hdigest : textDigest (bufferOfTexts texts) =
      textDigest (texts.flatMap fun text => text.toList ++ ['\n']) := by
    rw [bufferOfTexts_eq_flatMap]
    rfl
  rw [ofTexts, ← hdigest]
  rfl

/-- The report of a provider is that of its readable texts, and fails exactly as locating
the units does. -/
theorem Provider.report_eq_map (p : Provider) :
    p.report = p.locate.map fun locations => .ofTexts (p.texts locations) := by
  rw [report]
  congr 1
  funext locations
  rw [buffer_units, Report.ofBuffer_bufferOfTexts]

/-! ## Units in memory -/

theorem filterMap_range_getElem?_join {α : Type} (units : List (Option α)) :
    ((List.range units.length).filterMap fun number => units[number]?.join) =
      units.reduceOption := by
  induction units with
  | nil => rfl
  | cons unit units ih =>
      rw [List.length_cons, List.range_succ_eq_map, List.filterMap_cons, List.filterMap_map]
      cases unit with
      | none =>
          rw [List.reduceOption_cons_of_none]
          exact ih
      | some text =>
          rw [List.reduceOption_cons_of_some]
          exact congrArg (text :: ·) ih

namespace MemorySources

theorem read_index (m : MemorySources) (number : Nat) :
    (m.read (.index number)).toOption = m.units[number]?.join := by
  rw [read]
  split
  next heq =>
    rw [heq]
    rfl
  next hmissing =>
    cases hunit : m.units[number]? with
    | none => rfl
    | some unit =>
        cases unit with
        | none => rfl
        | some text => exact absurd hunit (hmissing text)

/-- The readable texts of units in memory are those that are not missing. -/
theorem texts_provider (m : MemorySources) :
    m.provider.texts m.locations = m.units.reduceOption := by
  rw [Provider.texts, locations, List.filterMap_map, ← filterMap_range_getElem?_join]
  congr 1
  funext number
  exact m.read_index number

/-- Units in memory always have a report. -/
theorem report_provider (m : MemorySources) :
    m.provider.report = .ok (.ofTexts m.units.reduceOption) := by
  rw [Provider.report_eq_map, ← texts_provider]
  rfl

end MemorySources

/-! ## Files -/

namespace Workspace

/-- The text of the file that names lead to from the root, if it can be read. -/
def text? (w : Workspace) (names : List Files.Name) : Option String :=
  (w.tree.readText (w.pathOf names).toList).toOption

theorem texts_provider (w : Workspace) (units : List (List Files.Name)) :
    w.provider.texts (units.map fun names => .path (w.pathOf names)) =
      units.filterMap w.text? := by
  rw [Provider.texts, List.filterMap_map]
  congr 1
  funext names
  have hread : w.provider.read (.path (w.pathOf names)) =
      (w.tree.readText (w.pathOf names).toList).mapError SourceError.file := rfl
  rw [Function.comp, hread, text?]
  cases w.tree.readText (w.pathOf names).toList <;> rfl

/-- The report of a workspace is that of the files that are texts, and fails exactly as the
file system refuses to walk the root. -/
theorem report_provider (w : Workspace) :
    w.provider.report =
      (w.unitNames.mapError .file).map fun units => .ofTexts (units.filterMap w.text?) := by
  rw [Provider.report_eq_map]
  change w.locate.map _ = _
  rw [locate]
  cases w.unitNames with
  | error fault => rfl
  | ok units =>
      exact congrArg (fun texts => Except.ok (Report.ofTexts texts)) (w.texts_provider units)

end Workspace

/-! ## Units that cannot be read -/

/-- Whatever a provider holds, its report is that of its readable texts once the units are
located, and otherwise fails for the reason for which they are not.  Units that cannot be
read do not show, wherever they stand. -/
theorem Provider.report_eq_ofTexts (p : Provider) :
    (∀ locations, p.locate = .ok locations → p.report = .ok (.ofTexts (p.texts locations))) ∧
      (∀ e, p.report = .error e ↔ p.locate = .error e) ∧
      (∀ (q : Provider) (locations locations' : List Location), p.locate = .ok locations →
        q.locate = .ok locations' → p.texts locations = q.texts locations' →
        p.report = q.report) ∧
      ∀ m m' : MemorySources, m.units.reduceOption = m'.units.reduceOption →
        m.provider.report = m'.provider.report := by
  refine ⟨?_, ?_, ?_, ?_⟩
  · intro locations hlocate
    rw [report_eq_map, hlocate]
    rfl
  · intro e
    rw [report_eq_map]
    cases p.locate with
    | error e' => rw [Except.map, Except.error.injEq, Except.error.injEq]
    | ok locations => simp only [Except.map, reduceCtorEq]
  · intro q locations locations' hp hq htexts
    rw [report_eq_map, report_eq_map, hp, hq, Except.map, Except.map, htexts]
  · intro m m' hunits
    rw [m.report_provider, m'.report_provider, hunits]

/-- Two units of which the second uses the first, with one between them that cannot be
read. -/
def yardUnits : MemorySources :=
  ⟨[some "class Hen { }", none, some "class Yard { Hen hen; }"]⟩

/-- The same units between others that cannot be read. -/
def yardUnitsMoved : MemorySources :=
  ⟨[none, some "class Hen { }", some "class Yard { Hen hen; }", none]⟩

theorem Provider.report_yardUnits :
    yardUnits.provider.report = .ok (.ofTexts ["class Hen { }", "class Yard { Hen hen; }"]) ∧
      (yardUnits.provider.refusing "no yard").report = .error (.refused "no yard") ∧
      yardUnits.provider.report = yardUnitsMoved.provider.report := by
  have hyard := report_eq_ofTexts yardUnits.provider
  have hrefused := report_eq_ofTexts (yardUnits.provider.refusing "no yard")
  exact ⟨hyard.1 yardUnits.locations rfl, (hrefused.2.1 _).mpr rfl,
    hyard.2.2.1 yardUnitsMoved.provider _ _ rfl rfl rfl⟩

end ClassDiagram
