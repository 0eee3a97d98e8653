import ClassDiagram.Proofs.PublishingSession

/-!
# What a change of the report means

A publication is answered by whether its digest differs from that of the publication it
replaces.  Whoever draws diagrams may want to skip a drawing when it does not.  This module
says when that is sound.

A report is made from a buffer alone: how the buffer was divided into units, and which
units could not be read, do not show.  The digest is written in a way that keeps the bytes
of the hash and those of the buffer apart.  So only a collision of the hash itself can hide
a change, and nothing can feign one.

Main results:

- Theorem `eq_of_textDigest_eq`: texts with one digest are the same, unless the hash
  collides on their bytes.
- Theorem `Report.RebuiltFrom.eq_ofBuffer`: a report is determined by the buffer.
- Theorem `Session.report_eq_of_unchanged`: in a session of rebuilt reports, a publication
  without a change repeats the report, and one with a change has another buffer.
-/

namespace ClassDiagram

open Text

/-! ## Digests of texts -/

namespace Sha256

/-- The hash does not tell two byte sequences apart although they differ. -/
def Collides (bytes bytes' : List UInt8) : Prop :=
  bytes ≠ bytes' ∧ digest bytes = digest bytes'

theorem hexByte_injective : Function.Injective hexByte := by
  intro a b h
  have hdigit : ∀ n < 16, ∀ m < 16, n.digitChar = m.digitChar → n = m := by decide
  have ha := a.toNat_lt
  have hb := b.toNat_lt
  rw [hexByte, hexByte, List.cons.injEq, List.cons.injEq] at h
  have hhigh := hdigit _ (by omega) _ (by omega) h.1
  have hlow := hdigit _ (by omega) _ (by omega) h.2.1
  exact UInt8.toNat_inj.mp (by omega)

/-- Hexadecimal digits, two for each byte, are read back in one way only. -/
theorem flatMap_hexByte_injective : Function.Injective (List.flatMap hexByte) := by
  intro bytes
  induction bytes with
  | nil =>
      intro bytes' h
      cases bytes' with
      | nil => rfl
      | cons b bytes' => cases h
  | cons a bytes ih =>
      intro bytes' h
      cases bytes' with
      | nil => cases h
      | cons b bytes' =>
          rw [List.flatMap_cons, List.flatMap_cons] at h
          obtain ⟨hbyte, hrest⟩ := List.append_inj h rfl
          rw [hexByte_injective hbyte, ih hrest]

theorem hexDigest_inj {bytes bytes' : List UInt8} :
    hexDigest bytes = hexDigest bytes' ↔ digest bytes = digest bytes' := by
  rw [hexDigest, hexDigest, String.ofList_inj, flatMap_hexByte_injective.eq_iff]

end Sha256

theorem Text.utf8Bytes_injective : Function.Injective utf8Bytes := by
  intro cs ds h
  apply String.ofList_injective
  rw [← String.toByteArray_inj]
  exact congrArg List.toByteArray h

/-- Texts with one digest are the same, unless the hash collides on their bytes. -/
theorem eq_of_textDigest_eq {text text' : List Char} (h : textDigest text = textDigest text')
    (hfree : ¬ Sha256.Collides (utf8Bytes text) (utf8Bytes text')) : text = text' := by
  have hdigest := Sha256.hexDigest_inj.mp h
  by_contra hne
  exact hfree ⟨fun hbytes => hne (utf8Bytes_injective hbytes), hdigest⟩

/-! ## Rebuilt reports -/

/-- The report is the one on the sources of some provider, whose readable units make up the
buffer. -/
def Report.RebuiltFrom (report : Report) (text : List Char) : Prop :=
  ∃ (p : Provider) (locations : List Location), p.locate = .ok locations ∧
    p.report = .ok report ∧ buffer (p.units locations) = text

/-- A rebuilt report is determined by the buffer. -/
theorem Report.RebuiltFrom.eq_ofBuffer {report : Report} {text : List Char}
    (h : report.RebuiltFrom text) : report = .ofBuffer text := by
  obtain ⟨p, locations, hlocate, hreport, rfl⟩ := h
  rw [Provider.report, hlocate] at hreport
  exact (Except.ok.inj hreport).symm

theorem Report.RebuiltFrom.digest_eq {report : Report} {text : List Char}
    (h : report.RebuiltFrom text) : report.digest = textDigest text := by
  rw [h.eq_ofBuffer]
  rfl

/-- Whatever a provider reports was rebuilt from a buffer. -/
theorem Provider.exists_rebuiltFrom {p : Provider} {report : Report} (h : p.report = .ok report) :
    ∃ text, report.RebuiltFrom text := by
  cases hlocate : p.locate with
  | error e =>
      rw [Provider.report, hlocate] at h
      cases h
  | ok locations => exact ⟨_, p, locations, hlocate, h, rfl⟩

/-- The report on any texts is rebuilt from their buffer. -/
theorem Report.rebuiltFrom_ofTexts (texts : List String) :
    (ofTexts texts).RebuiltFrom (bufferOfTexts texts) := by
  let m : MemorySources := ⟨texts.map some⟩
  have htexts : m.units.reduceOption = texts := by
    rw [List.reduceOption, List.filterMap_map]
    exact List.filterMap_some
  refine ⟨m.provider, m.locations, rfl, ?_, ?_⟩
  · rw [m.report_provider, htexts]
  · rw [Provider.buffer_units, m.texts_provider, htexts]

/-- A rebuilt report is news in the place of another if their buffers have different
digests. -/
theorem Publisher.isNews_iff_of_rebuiltFrom {p : Publisher} {previous : Publication}
    {report : Report} {oldText newText : List Char} (hprevious : p.latest = some previous)
    (hold : previous.report.RebuiltFrom oldText) (hnew : report.RebuiltFrom newText) :
    p.isNews report = true ↔ textDigest oldText ≠ textDigest newText := by
  rw [isNews_iff, ← hold.digest_eq, ← hnew.digest_eq, hprevious]
  simp only [Option.some.injEq, forall_eq']

/-! ## Sessions of rebuilt reports -/

namespace Session

variable {first : Provider} {steps before behind : List Step} {step : Step}

/-- Every report that is published directly was rebuilt from a buffer. -/
def PublishesRebuilt (steps : List Step) : Prop :=
  ∀ report, Step.publish report ∈ steps → ∃ text, report.RebuiltFrom text

theorem PublishesRebuilt.of_reportAt? (h : PublishesRebuilt (before ++ step :: behind))
    {report : Report} (hreport : reportAt? first before step = some report) :
    ∃ text, report.RebuiltFrom text := by
  cases step with
  | save =>
      rw [reportAt?] at hreport
      cases hok : (providerAfter first before).report with
      | ok report' =>
          rw [hok] at hreport
          cases hreport
          exact Provider.exists_rebuiltFrom hok
      | error e =>
          rw [hok] at hreport
          cases hreport
  | publish report' =>
      cases hreport
      exact h report (List.mem_append_right before List.mem_cons_self)
  | ask => cases hreport
  | replace sources => cases hreport
  | fail reason => cases hreport
  | recover => cases hreport

/-- The latest report of a session was rebuilt from a buffer, if all that were published
directly were. -/
theorem PublishesRebuilt.latest (h : PublishesRebuilt steps) {last : Publication}
    (hlatest : ((opened first).run steps).publisher.latest = some last) :
    ∃ text, last.report.RebuiltFrom text := by
  rw [(recounts_run first steps).issued] at hlatest
  obtain ⟨report, hlast, rfl⟩ := Option.map_eq_some_iff.mp hlatest
  obtain ⟨before, step, behind, rfl, hreport⟩ :=
    exists_of_mem_published (List.mem_of_getLast? hlast)
  exact h.of_reportAt? hreport

theorem PublishesRebuilt.of_append (h : PublishesRebuilt (before ++ behind)) :
    PublishesRebuilt before :=
  fun report hreport => h report (List.mem_append_left behind hreport)

/-- Saves and publications that are answered by a flag publish a rebuilt report.  One that is
said not to change the report replaces another, and repeats it: the diagram, the classes and
the relationships are those of the report replaced, unless the hash collides on the two
buffers.  One that is said to change the report it replaces has another buffer. -/
theorem report_eq_of_unchanged (first : Provider) (before behind : List Step) (step : Step)
    (hrebuilt : PublishesRebuilt (before ++ step :: behind)) {flag : Bool}
    (hreply : (((opened first).run before).step step).2 = .changed flag) :
    ∃ new, (((opened first).run before).step step).1.publisher.latest = some new ∧
      (∃ text, new.report.RebuiltFrom text) ∧
      (flag = false → ∃ previous, ((opened first).run before).publisher.latest = some previous) ∧
      ∀ previous, ((opened first).run before).publisher.latest = some previous →
        (∃ text, previous.report.RebuiltFrom text) ∧
          ∀ oldText newText, previous.report.RebuiltFrom oldText →
            new.report.RebuiltFrom newText →
            (flag = false → ¬ Sha256.Collides (utf8Bytes oldText) (utf8Bytes newText) →
              new.report.graph = previous.report.graph ∧
                new.report.classes = previous.report.classes ∧
                new.report.relationships = previous.report.relationships) ∧
              (flag = true → oldText ≠ newText) := by
  have hbefore := recounts_run first before
  obtain ⟨report, hreport, hflag⟩ := hbefore.changed_iff.mp hreply
  have hnew : (((opened first).run before).step step).1.publisher =
      ((opened first).run before).publisher.publish report := by
    rw [hbefore.publisher_step, hreport]
    rfl
  refine ⟨_, congrArg Publisher.latest hnew, hrebuilt.of_reportAt? hreport, ?_, ?_⟩
  · rintro rfl
    by_contra hnone
    have hnews := (Publisher.isNews_iff _ report).mpr fun previous hprevious =>
      absurd ⟨previous, hprevious⟩ hnone
    rw [hflag] at hnews
    cases hnews
  · intro previous hprevious
    refine ⟨hrebuilt.of_append.latest hprevious, fun oldText newText hold hnewText => ?_⟩
    have hdigests := Publisher.isNews_iff_of_rebuiltFrom hprevious hold hnewText
    rw [hflag] at hdigests
    constructor
    · rintro rfl hfree
      have hdigest : textDigest oldText = textDigest newText := by
        by_contra hne
        cases hdigests.mpr hne
      have hreports : report = previous.report := by
        rw [hold.eq_ofBuffer, eq_of_textDigest_eq hdigest hfree]
        exact hnewText.eq_ofBuffer
      rw [hreports]
      exact ⟨rfl, rfl, rfl⟩
    · rintro htrue rfl
      exact hdigests.mp htrue rfl

/-- A save of two units, then a save of the same text in one unit, then the report on a
part of it. -/
def togetherSteps : List Step :=
  [.save, .replace (MemorySources.mk [some "class Hen { }\nclass Yard { Hen hen; }"]).provider,
    .save, .publish (.ofTexts ["class Hen { }"])]

theorem report_eq_of_togetherSteps :
    PublishesRebuilt togetherSteps ∧
      ((((opened yardUnits.provider).run (togetherSteps.take 2)).step .save).2 = .changed false ∧
        graphOfTexts ["class Hen { }\nclass Yard { Hen hen; }"] =
          graphOfTexts ["class Hen { }", "class Yard { Hen hen; }"]) ∧
      ((((opened yardUnits.provider).run (togetherSteps.take 3)).step
          (.publish (.ofTexts ["class Hen { }"]))).2 = .changed true ∧
        bufferOfTexts ["class Hen { }\nclass Yard { Hen hen; }"] ≠
          bufferOfTexts ["class Hen { }"]) := by
  have hrebuilt : PublishesRebuilt togetherSteps := by
    intro report hreport
    obtain rfl : report = .ofTexts ["class Hen { }"] := by
      simpa [togetherSteps] using hreport
    exact ⟨_, Report.rebuiltFrom_ofTexts _⟩
  refine ⟨hrebuilt, ?_, ?_⟩
  · have hlatest : ((opened yardUnits.provider).run (togetherSteps.take 2)).publisher.latest =
        some ⟨1, .ofTexts ["class Hen { }", "class Yard { Hen hen; }"]⟩ := by rfl
    have hnews : ((opened yardUnits.provider).run (togetherSteps.take 2)).publisher.isNews
        (.ofTexts ["class Hen { }\nclass Yard { Hen hen; }"]) = false := by decide +kernel
    have hreply := (recounts_run yardUnits.provider (togetherSteps.take 2)).changed_iff.mpr
      ⟨.ofTexts ["class Hen { }\nclass Yard { Hen hen; }"], (by rfl : reportAt? _ _ .save = _),
        hnews⟩
    obtain ⟨new, hnew, -, -, hchange⟩ := report_eq_of_unchanged yardUnits.provider
      (togetherSteps.take 2) (togetherSteps.drop 3) .save hrebuilt hreply
    obtain rfl : ⟨2, .ofTexts ["class Hen { }\nclass Yard { Hen hen; }"]⟩ = new :=
      Option.some.inj hnew
    have hgraph := ((hchange _ hlatest).2 _ _ (Report.rebuiltFrom_ofTexts _)
      (Report.rebuiltFrom_ofTexts _)).1 rfl fun hcollides => hcollides.1 rfl
    exact ⟨hreply, hgraph.1⟩
  · have hlatest : ((opened yardUnits.provider).run (togetherSteps.take 3)).publisher.latest =
        some ⟨2, .ofTexts ["class Hen { }\nclass Yard { Hen hen; }"]⟩ := by rfl
    have hnews : ((opened yardUnits.provider).run (togetherSteps.take 3)).publisher.isNews
        (.ofTexts ["class Hen { }"]) = true := by decide +kernel
    have hreply : (((opened yardUnits.provider).run (togetherSteps.take 3)).step
        (.publish (.ofTexts ["class Hen { }"]))).2 = .changed true := congrArg Reply.changed hnews
    obtain ⟨new, hnew, -, -, hchange⟩ := report_eq_of_unchanged yardUnits.provider
      (togetherSteps.take 3) [] _ hrebuilt hreply
    obtain rfl : ⟨3, .ofTexts ["class Hen { }"]⟩ = new := Option.some.inj hnew
    exact ⟨hreply,
      ((hchange _ hlatest).2 _ _ (Report.rebuiltFrom_ofTexts _)
        (Report.rebuiltFrom_ofTexts _)).2 rfl⟩

end Session

end ClassDiagram
