import ClassDiagram.Proofs.ReadableUnits
import ClassDiagram.Publisher

/-!
# Publishing sessions

A publisher is used over a long time.  Sources are saved and reported on, reports made
elsewhere are published, the latest publication is asked for, and meanwhile the sources
change, cannot be enumerated, or can be enumerated again.  A session takes such steps one
after the other.

What a session has published can be told from its steps alone, without running it: the
sources at any moment are those put in place last, and a save publishes the report on them
unless they cannot be enumerated.  This module compares the two accounts.

Main results:

- Theorem `Session.recounts_run`: after any steps, the session holds the sources and the
  latest publication that the steps tell of.
- Theorem `Session.publications_of_run`: the generation counts the publications, the latest
  report is the one published last, every reply compares with the report that is replaced,
  and a failing save changes nothing.
-/

namespace ClassDiagram

/-! ## Sessions -/

/-- A publisher in use, with the sources that it reports on. -/
structure Session where
  publisher : Publisher
  sources : Provider
  /-- Why the sources cannot be enumerated at present, if they cannot. -/
  refusal : Option String

namespace Session

/-- A step of a session. -/
inductive Step
  /-- The sources were saved: a report on them is published. -/
  | save
  /-- A report that is at hand is published. -/
  | publish (report : Report)
  /-- The latest publication is asked for. -/
  | ask
  /-- Other sources take the place of those before. -/
  | replace (sources : Provider)
  /-- From here on the sources cannot be enumerated. -/
  | fail (reason : String)
  /-- From here on the sources can be enumerated again. -/
  | recover

/-- What a step answers. -/
inductive Reply
  | done
  | changed (flag : Bool)
  | refused (e : SourceError)
  | latest (publication : Option Publication)

/-- The session with the given sources before any step. -/
def opened (sources : Provider) : Session :=
  ⟨.empty, sources, none⟩

/-- The sources, with a refusal to enumerate them if there is one. -/
def provider (s : Session) : Provider :=
  s.refusal.elim s.sources s.sources.refusing

/-- The reply to a save. -/
def Reply.ofRefresh : Except SourceError Bool → Reply
  | .ok flag => changed flag
  | .error e => refused e

/-- Takes a step. -/
def step (s : Session) : Step → Session × Reply
  | .save =>
      ({ s with publisher := (s.publisher.refresh s.provider).1 },
        .ofRefresh (s.publisher.refresh s.provider).2)
  | .publish report =>
      ({ s with publisher := s.publisher.publish report }, .changed (s.publisher.isNews report))
  | .ask => (s, .latest s.publisher.latest)
  | .replace sources => ({ s with sources := sources }, .done)
  | .fail reason => ({ s with refusal := some reason }, .done)
  | .recover => ({ s with refusal := none }, .done)

/-- Takes steps one after the other. -/
def run (s : Session) (steps : List Step) : Session :=
  steps.foldl (fun s step => (s.step step).1) s

@[simp] theorem run_nil (s : Session) : s.run [] = s := rfl

@[simp] theorem run_cons (s : Session) (step : Step) (steps : List Step) :
    s.run (step :: steps) = (s.step step).1.run steps := rfl

/-! ## What the steps tell -/

/-- The sources that the step puts in place. -/
def Step.sources? : Step → Option Provider
  | replace sources => some sources
  | _ => none

/-- What the step says about the enumeration of the sources: a reason why it fails, or that
there is none. -/
def Step.refusal? : Step → Option (Option String)
  | fail reason => some (some reason)
  | recover => some none
  | _ => none

/-- The sources put in place last. -/
def sourcesAfter (first : Provider) (steps : List Step) : Provider :=
  (steps.filterMap Step.sources?).getLastD first

/-- What was said last about the enumeration of the sources. -/
def refusalAfter (steps : List Step) : Option String :=
  (steps.filterMap Step.refusal?).getLastD none

/-- The sources put in place last, with the refusal to enumerate them if one is in force. -/
def providerAfter (first : Provider) (steps : List Step) : Provider :=
  (refusalAfter steps).elim (sourcesAfter first steps) (sourcesAfter first steps).refusing

/-- The report that a step publishes if the given steps come before it. -/
def reportAt? (first : Provider) (before : List Step) : Step → Option Report
  | .save => (providerAfter first before).report.toOption
  | .publish report => some report
  | _ => none

/-- The report that the step with the given number publishes. -/
def reportOf? (first : Provider) (steps : List Step) (number : Nat) : Option Report :=
  steps[number]?.bind (reportAt? first (steps.take number))

/-- The reports that steps publish, in order. -/
def published (first : Provider) (steps : List Step) : List Report :=
  (List.range steps.length).filterMap (reportOf? first steps)

variable {first : Provider} {steps : List Step}

theorem getLastD_filterMap_concat {α β : Type} (f : α → Option β) (as : List α) (a : α) (b : β) :
    ((as ++ [a]).filterMap f).getLastD b = (f a).getD ((as.filterMap f).getLastD b) := by
  rw [List.filterMap_append]
  cases ha : f a with
  | none => rw [List.filterMap_cons_none ha, List.filterMap_nil, List.append_nil, Option.getD_none]
  | some last => rw [List.filterMap_cons_some ha, List.filterMap_nil, List.getLastD_concat,
      Option.getD_some]

theorem sourcesAfter_concat (first : Provider) (steps : List Step) (step : Step) :
    sourcesAfter first (steps ++ [step]) = step.sources?.getD (sourcesAfter first steps) :=
  getLastD_filterMap_concat _ _ _ _

theorem refusalAfter_concat (steps : List Step) (step : Step) :
    refusalAfter (steps ++ [step]) = step.refusal?.getD (refusalAfter steps) :=
  getLastD_filterMap_concat _ _ _ _

theorem reportOf?_append_of_lt {number : Nat} (h : number < steps.length) (more : List Step) :
    reportOf? first (steps ++ more) number = reportOf? first steps number := by
  rw [reportOf?, reportOf?, List.getElem?_append_left h,
    List.take_append_of_le_length (Nat.le_of_lt h)]

theorem reportOf?_concat_length (first : Provider) (steps : List Step) (step : Step) :
    reportOf? first (steps ++ [step]) steps.length = reportAt? first steps step := by
  rw [reportOf?, List.getElem?_concat_length, List.take_left, Option.bind_some]

/-- What a step publishes comes behind what was published before. -/
theorem published_concat (first : Provider) (steps : List Step) (step : Step) :
    published first (steps ++ [step]) =
      published first steps ++ (reportAt? first steps step).toList := by
  have hearlier : (List.range steps.length).filterMap (reportOf? first (steps ++ [step])) =
      published first steps :=
    List.filterMap_congr fun number hnumber => reportOf?_append_of_lt (List.mem_range.mp hnumber) _
  have hlast := reportOf?_concat_length first steps step
  rw [published, List.length_append, List.length_singleton, List.range_succ,
    List.filterMap_append, hearlier]
  cases hreport : reportAt? first steps step with
  | none =>
      rw [List.filterMap_cons_none (hlast.trans hreport)]
      rfl
  | some report =>
      rw [List.filterMap_cons_some (hlast.trans hreport)]
      rfl

/-- Every published report was published by one of the steps. -/
theorem exists_of_mem_published {report : Report} (h : report ∈ published first steps) :
    ∃ before step behind, steps = before ++ step :: behind ∧
      reportAt? first before step = some report := by
  obtain ⟨number, hnumber, hreport⟩ := List.mem_filterMap.mp h
  have hlt : number < steps.length := List.mem_range.mp hnumber
  rw [reportOf?, List.getElem?_eq_getElem hlt, Option.bind_some] at hreport
  refine ⟨steps.take number, steps[number], steps.drop (number + 1), ?_, hreport⟩
  rw [← List.drop_eq_getElem_cons hlt, List.take_append_drop]

/-- No more reports are published than steps are taken. -/
theorem length_published_le (first : Provider) (steps : List Step) :
    (published first steps).length ≤ steps.length := by
  calc
    (published first steps).length ≤ (List.range steps.length).length :=
      List.length_filterMap_le _ _
    _ = steps.length := List.length_range

end Session

/-! ## Publishers and the reports they were given -/

namespace Publisher

/-- The publisher has published the given reports and no others. -/
def Issued (p : Publisher) (reports : List Report) : Prop :=
  p.latest = reports.getLast?.map fun report => ⟨.ofNat reports.length, report⟩

theorem issued_empty : empty.Issued [] := rfl

/-- Publishing adds one report to those published. -/
theorem Issued.publish {p : Publisher} {reports : List Report} (h : p.Issued reports)
    (report : Report) : (p.publish report).Issued (reports ++ [report]) := by
  have hnext : p.nextGeneration = .ofNat (reports.length + 1) := by
    rw [nextGeneration, h]
    cases hlast : reports.getLast? with
    | none =>
        rw [List.getLast?_eq_none_iff.mp hlast]
        rfl
    | some last => exact (UInt64.ofNat_add _ _).symm
  rw [Issued, latest_publish, hnext, List.getLast?_concat, List.length_append]
  rfl

theorem Issued.latest_eq_none_iff {p : Publisher} {reports : List Report}
    (h : p.Issued reports) : p.latest = none ↔ reports = [] := by
  rw [h, Option.map_eq_none_iff, List.getLast?_eq_none_iff]

/-- As long as the numbers last, the generation is the number of publications. -/
theorem Issued.of_latest_eq_some {p : Publisher} {reports : List Report} {last : Publication}
    (h : p.Issued reports) (hlength : reports.length < UInt64.size)
    (hlatest : p.latest = some last) :
    last.generation.toNat = reports.length ∧ reports.getLast? = some last.report := by
  rw [h] at hlatest
  obtain ⟨report, hreport, rfl⟩ := Option.map_eq_some_iff.mp hlatest
  exact ⟨UInt64.toNat_ofNat_of_lt' hlength, hreport⟩

/-- A report is news if it is the first, or if its digest is not that of the report it
replaces. -/
theorem isNews_iff (p : Publisher) (report : Report) :
    p.isNews report = true ↔
      ∀ previous, p.latest = some previous → previous.report.digest ≠ report.digest := by
  rw [isNews]
  cases p.latest with
  | none => simp
  | some previous => simp

end Publisher

/-! ## Runs -/

namespace Session

variable {first : Provider} {steps : List Step} {s : Session}

/-- The session is as the steps tell. -/
structure Recounts (first : Provider) (steps : List Step) (s : Session) : Prop where
  sources_eq : s.sources = sourcesAfter first steps
  refusal_eq : s.refusal = refusalAfter steps
  issued : s.publisher.Issued (published first steps)

theorem recounts_opened (first : Provider) : Recounts first [] (opened first) where
  sources_eq := rfl
  refusal_eq := rfl
  issued := Publisher.issued_empty

theorem Recounts.provider_eq (h : Recounts first steps s) :
    s.provider = providerAfter first steps := by
  rw [provider, providerAfter, h.sources_eq, h.refusal_eq]

/-- A step publishes the report that the steps before it tell of, if there is one. -/
theorem Recounts.publisher_step (h : Recounts first steps s) (step : Step) :
    (s.step step).1.publisher =
      (reportAt? first steps step).elim s.publisher s.publisher.publish := by
  cases step with
  | save =>
      rw [Session.step, h.provider_eq, reportAt?]
      cases hreport : (providerAfter first steps).report with
      | ok report => rw [Publisher.refresh_of_ok hreport]; rfl
      | error e => rw [Publisher.refresh_of_error hreport]; rfl
  | publish report => rfl
  | ask => rfl
  | replace sources => rfl
  | fail reason => rfl
  | recover => rfl

/-- A step leaves the session as the longer list of steps tells. -/
theorem Recounts.step (h : Recounts first steps s) (step : Step) :
    Recounts first (steps ++ [step]) (s.step step).1 where
  sources_eq := by
    rw [sourcesAfter_concat, ← h.sources_eq]
    cases step <;> rfl
  refusal_eq := by
    rw [refusalAfter_concat, ← h.refusal_eq]
    cases step <;> rfl
  issued := by
    rw [h.publisher_step, published_concat]
    cases reportAt? first steps step with
    | none =>
        rw [Option.toList_none, List.append_nil]
        exact h.issued
    | some report => exact h.issued.publish report

/-- After any steps, the session is as they tell. -/
theorem Recounts.run (h : Recounts first steps s) (more : List Step) :
    Recounts first (steps ++ more) (s.run more) := by
  induction more generalizing steps s with
  | nil =>
      rw [List.append_nil, run_nil]
      exact h
  | cons step more ih =>
      rw [List.append_cons, run_cons]
      exact ih (h.step step)

theorem recounts_run (first : Provider) (steps : List Step) :
    Recounts first steps ((opened first).run steps) :=
  (recounts_opened first).run steps

/-- A step is answered by a flag if it publishes a report, and the flag tells whether that is
news. -/
theorem Recounts.changed_iff (h : Recounts first steps s) {step : Step} {flag : Bool} :
    (s.step step).2 = .changed flag ↔
      ∃ report, reportAt? first steps step = some report ∧ s.publisher.isNews report = flag := by
  cases step with
  | save =>
      rw [reportAt?, ← h.provider_eq, Session.step]
      cases hreport : s.provider.report with
      | ok report =>
          rw [Publisher.refresh_of_ok hreport]
          simp [Reply.ofRefresh, Except.toOption]
      | error e =>
          rw [Publisher.refresh_of_error hreport]
          simp [Reply.ofRefresh, Except.toOption]
  | publish report => simp [Session.step, reportAt?]
  | ask => simp [Session.step, reportAt?]
  | replace sources => simp [Session.step, reportAt?]
  | fail reason => simp [Session.step, reportAt?]
  | recover => simp [Session.step, reportAt?]

/-- A save whose sources cannot be enumerated answers why, and changes nothing. -/
theorem Recounts.step_save_of_error (h : Recounts first steps s) {e : SourceError}
    (hlocate : (providerAfter first steps).locate = .error e) :
    s.step .save = (s, .refused e) := by
  have hreport : s.provider.report = .error e := by
    rw [h.provider_eq, Provider.report_eq_map, hlocate]
    rfl
  rw [Session.step, Publisher.refresh_of_error hreport]
  rfl

theorem reportAt?_save_of_ok {locations : List Location}
    (hlocate : (providerAfter first steps).locate = .ok locations) :
    reportAt? first steps .save =
      some (.ofTexts ((providerAfter first steps).texts locations)) := by
  rw [reportAt?, Provider.report_eq_map, hlocate]
  rfl

/-- Whatever happens in a session, the generation counts the publications so far and the
latest report is the one published last, for a save the report on the sources as they then
were.  Each publication is answered by whether it is the first or has another digest than
the one it replaces.  A save whose sources cannot be enumerated is answered by the reason,
and nothing else shows that it took place. -/
theorem publications_of_run (first : Provider) (steps : List Step)
    (hlength : steps.length < UInt64.size) :
    (((opened first).run steps).publisher.latest = none ↔ published first steps = []) ∧
      (∀ last, ((opened first).run steps).publisher.latest = some last →
        last.generation.toNat = (published first steps).length ∧
          (published first steps).getLast? = some last.report) ∧
      ∀ (before : List Step) (step : Step) (behind : List Step),
        steps = before ++ step :: behind →
        (∀ report, reportAt? first before step = some report →
          ∃ flag, (((opened first).run before).step step).2 = .changed flag ∧
            (flag = true ↔
              ∀ previous, ((opened first).run before).publisher.latest = some previous →
                previous.report.digest ≠ report.digest)) ∧
          (step = .save → ∀ locations, (providerAfter first before).locate = .ok locations →
            reportAt? first before step =
              some (.ofTexts ((providerAfter first before).texts locations))) ∧
          (step = .save → ∀ e, (providerAfter first before).locate = .error e →
            ((opened first).run before).step step = ((opened first).run before, .refused e)) ∧
          (step = .ask → ((opened first).run before).step step =
            ((opened first).run before, .latest ((opened first).run before).publisher.latest)) := by
  have hissued := (recounts_run first steps).issued
  have hcount : (published first steps).length < UInt64.size :=
    Nat.lt_of_le_of_lt (length_published_le first steps) hlength
  refine ⟨hissued.latest_eq_none_iff, fun last => hissued.of_latest_eq_some hcount, ?_⟩
  intro before step behind _
  have hbefore := recounts_run first before
  refine ⟨?_, ?_, ?_, ?_⟩
  · intro report hreport
    exact ⟨_, hbefore.changed_iff.mpr ⟨report, hreport, rfl⟩, Publisher.isNews_iff _ _⟩
  · rintro rfl locations hlocate
    exact reportAt?_save_of_ok hlocate
  · rintro rfl e hlocate
    exact hbefore.step_save_of_error hlocate
  · rintro rfl
    rfl

/-- Two saves of the same units, a save that fails, a save of other units, and a report
published beside them. -/
def yardSteps : List Step :=
  [.ask, .save, .save, .fail "no yard", .save, .replace (MemorySources.mk []).provider, .recover,
    .save, .publish (.ofTexts ["class Hen { }"])]

theorem publications_of_yardSteps :
    yardSteps.length < UInt64.size ∧
      (∃ last, ((opened yardUnits.provider).run yardSteps).publisher.latest = some last ∧
        last.generation.toNat = 4 ∧ last.report = .ofTexts ["class Hen { }"]) ∧
      ((opened yardUnits.provider).run (yardSteps.take 4)).step .save =
        ((opened yardUnits.provider).run (yardSteps.take 4), .refused (.refused "no yard")) ∧
      (((opened yardUnits.provider).run (yardSteps.take 2)).step .save).2 = .changed false ∧
      (((opened yardUnits.provider).run (yardSteps.take 7)).step .save).2 = .changed true := by
  have hlength : yardSteps.length < UInt64.size := by decide
  have hrun := publications_of_run yardUnits.provider yardSteps hlength
  have hpublished : published yardUnits.provider yardSteps =
      [.ofTexts ["class Hen { }", "class Yard { Hen hen; }"],
        .ofTexts ["class Hen { }", "class Yard { Hen hen; }"], .ofTexts [],
        .ofTexts ["class Hen { }"]] := by
    rfl
  refine ⟨hlength, ?_, ?_, ?_, ?_⟩
  · cases hlatest : ((opened yardUnits.provider).run yardSteps).publisher.latest with
    | none =>
        have hnone := hrun.1.mp hlatest
        rw [hpublished] at hnone
        cases hnone
    | some last =>
        obtain ⟨hgeneration, hreport⟩ := hrun.2.1 last hlatest
        rw [hpublished] at hgeneration hreport
        exact ⟨last, rfl, hgeneration, (Option.some.inj hreport).symm⟩
  · exact (hrun.2.2 (yardSteps.take 4) .save (yardSteps.drop 5) rfl).2.2.1 rfl _ rfl
  · obtain ⟨report, hlatest, hreport⟩ : ∃ report,
        ((opened yardUnits.provider).run (yardSteps.take 2)).publisher.latest = some ⟨1, report⟩ ∧
          reportAt? yardUnits.provider (yardSteps.take 2) .save = some report :=
      ⟨.ofTexts ["class Hen { }", "class Yard { Hen hen; }"], by rfl, by rfl⟩
    obtain ⟨flag, hreply, hflag⟩ :=
      (hrun.2.2 (yardSteps.take 2) .save (yardSteps.drop 3) rfl).1 _ hreport
    cases flag with
    | false => exact hreply
    | true => exact absurd rfl (hflag.mp rfl _ hlatest)
  · have hlatest : ((opened yardUnits.provider).run (yardSteps.take 7)).publisher.latest =
        some ⟨2, .ofTexts ["class Hen { }", "class Yard { Hen hen; }"]⟩ := by rfl
    have hreport : reportAt? yardUnits.provider (yardSteps.take 7) .save = some (.ofTexts []) := by
      rfl
    have hdigests : (Report.ofTexts ["class Hen { }", "class Yard { Hen hen; }"]).digest ≠
        (Report.ofTexts []).digest := by decide +kernel
    obtain ⟨flag, hreply, hflag⟩ :=
      (hrun.2.2 (yardSteps.take 7) .save (yardSteps.drop 8) rfl).1 _ hreport
    have htrue : flag = true := by
      refine hflag.mpr fun previous hprevious => ?_
      rw [hlatest] at hprevious
      cases hprevious
      exact hdigests
    rw [hreply, htrue]

end Session

end ClassDiagram
