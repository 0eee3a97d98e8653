import ClassDiagram.Proofs.BodyRange
import ClassDiagram.Proofs.BraceBalance
import ClassDiagram.Proofs.SiteExtension

/-!
# Edits between braces

A part of a text that stands between braces, declares nothing and is balanced can be
replaced by another one without being noticed outside.  The braces keep headings from
reaching into the part, and a span that enters it leaves it at the depth at which it
entered.  Only the bodies around the part see it.

Main results:

- Theorem `sites_inBraces`: the sites are those before and behind the part.
- Theorem `body?_inBraces_or_covers`: a recorded body either has the part in it or does
  not depend on it.
- Theorem `scan_inBraces`: an edit shows nowhere but in bodies that contain it.
-/

namespace ClassDiagram

open Text

/-! ## Parts between braces -/

/-- A text with a part of it between braces. -/
def inBraces (before part behind : List Char) : List Char :=
  before ++ '{' :: (part ++ '}' :: behind)

/-- A part that can be replaced: it does not hold the keyword of declarations, and its
braces are balanced. -/
structure Replaceable (part : List Char) : Prop where
  no_keyword : ¬ classKeyword <:+: part
  balanced : Balanced part

instance (part : List Char) : Decidable (Replaceable part) :=
  decidable_of_iff (¬ classKeyword <:+: part ∧ Balanced part)
    ⟨fun h => ⟨h.1, h.2⟩, fun h => ⟨h.no_keyword, h.balanced⟩⟩

/-! ## Sites -/

/-- A heading starts with its keyword. -/
theorem Heading.keyword_prefix {cs : List Char} {h : Heading} (hr : read? cs = some h) :
    classKeyword <+: cs := by
  obtain ⟨afterKeyword, -, -, hkeyword, -⟩ := read?_eq_some_iff.mp hr
  exact ⟨afterKeyword, (afterLead?_eq_some_iff.mp hkeyword).symm⟩

/-- Without the keyword there is no declaration before a closing brace. -/
theorem sites_of_no_keyword {part : List Char} (h : ¬ classKeyword <:+: part) :
    sites (part ++ ['}']) = [] := by
  induction part with
  | nil => exact sites_eq_nil_of_not_mem (by decide)
  | cons c part ih =>
      have hread : Heading.read? (c :: (part ++ ['}'])) = none := by
        cases hr : Heading.read? (c :: (part ++ ['}'])) with
        | none => rfl
        | some heading =>
            have hkeyword := Heading.keyword_prefix hr
            rw [← List.cons_append, List.prefix_concat_iff] at hkeyword
            rcases hkeyword with hall | hlead
            · have hbrace : '}' ∈ classKeyword := by
                rw [hall]
                simp
              exact absurd hbrace (by decide)
            · exact absurd hlead.isInfix h
      rw [List.cons_append, sites_cons_of_read? hread]
      exact ih fun hlater => h (hlater.trans (List.suffix_cons c part).isInfix)

/-- The sites of a text with a replaceable part are those before and behind the part. -/
theorem sites_inBraces {part : List Char} (h : Replaceable part) (before behind : List Char) :
    sites (inBraces before part behind) =
      (sites (before ++ ['{'])).map (Site.extend (part ++ '}' :: behind)) ++ sites behind := by
  have hpart : sites (part ++ '}' :: behind) = sites behind := by
    rw [sites_append_of_brace, sites_of_no_keyword h.no_keyword]
    rfl
  rw [inBraces, sites_append_of_barrier (by decide) (by decide) (by decide), hpart]

/-- A site before the part has an opening brace behind it. -/
theorem brace_mem_of_mem_sites {before : List Char} {x : Site}
    (hx : x ∈ sites (before ++ ['{'])) : '{' ∈ x.text := by
  obtain ⟨lead, hlead⟩ := suffix_of_mem_sites hx
  have hgetLast := congrArg List.getLast? hlead
  rw [List.getLast?_append_of_ne_nil lead (text_ne_nil_of_mem_sites hx),
    List.getLast?_concat] at hgetLast
  exact List.mem_of_getLast? hgetLast

/-! ## Bodies around the part -/

/-- A body that is still open before the part has the part in it. -/
theorem covers_of_not_closes {part : List Char} (h : Replaceable part) {before : List Char}
    (behind : List Char) {x : Site} (hx : x ∈ sites (before ++ ['{']))
    (hopen : ¬ BodyCloses x.text) :
    ∃ range, bodyRangeFrom? (inBraces before part behind)
        ((x.extend (part ++ '}' :: behind)).declarationIn
          (inBraces before part behind)).start = some range ∧
      range.Covers (.after (before ++ ['{']) part) := by
  obtain ⟨lead, inner, htext, hlead⟩ := List.eq_append_cons_of_mem (brace_mem_of_mem_sites hx)
  obtain ⟨still, hstill⟩ : ∃ still, openBehind 0 inner = some still := by
    rw [← Option.ne_none_iff_exists']
    exact fun hnone => hopen (bodyCloses_iff.mpr ⟨lead, inner, htext, hlead, hnone⟩)
  obtain ⟨front, hfront⟩ := suffix_of_mem_sites hx
  have hbuffer : inBraces before part behind =
      front ++ (x.extend (part ++ '}' :: behind)).text := by
    rw [inBraces, Site.extend, ← List.append_assoc, hfront, List.append_assoc,
      List.singleton_append]
  have hspan : spanToClose 0 (inner ++ (part ++ '}' :: behind)) =
      inner ++ part ++ spanToClose still ('}' :: behind) := by
    rw [spanToClose_append, hstill]
    simp only [spanToClose_append_of_balanced h.balanced, List.append_assoc]
  have hplace : before ++ ['{'] = front ++ lead ++ ['{'] ++ inner := by
    rw [← hfront, htext]
    simp
  have hinner : x.text ++ (part ++ '}' :: behind) =
      lead ++ '{' :: (inner ++ (part ++ '}' :: behind)) := by
    rw [htext]
    simp
  rw [hbuffer, Site.start_declarationIn, Site.extend, hinner, bodyRangeFrom?_of_brace hlead,
    hspan, hplace]
  exact ⟨_, rfl, ByteRange.covers_after _ _ _ _⟩

section

variable {part part' : List Char} (h : Replaceable part) (before behind : List Char)

include h

theorem find?_sites_inBraces (name : ClassName) :
    (sites (inBraces before part behind)).find? (fun x => x.name = name) =
      (((sites (before ++ ['{'])).find? fun x => x.name = name).map
        (Site.extend (part ++ '}' :: behind))).or
          ((sites behind).find? fun x => x.name = name) := by
  rw [sites_inBraces h, List.find?_append, List.find?_map]
  rfl

/-- A recorded body either has the part in it or does not depend on it. -/
theorem body?_inBraces_or_covers (h' : Replaceable part') (name : ClassName) :
    (scan (inBraces before part behind)).body? name =
        (scan (inBraces before part' behind)).body? name ∨
      ∃ range, recordedRange? (inBraces before part behind) name = some range ∧
        range.Covers (.after (before ++ ['{']) part) := by
  rw [body?_scan, body?_scan, recordedRange?_eq_bind, find?_sites_inBraces h,
    find?_sites_inBraces h']
  cases hfind : (sites (before ++ ['{'])).find? fun x => x.name = name with
  | none => exact Or.inl rfl
  | some x =>
      have hx := List.mem_of_find?_eq_some hfind
      simp only [Option.map_some, Option.some_or, Option.bind_some]
      by_cases hcloses : BodyCloses x.text
      · left
        simp only [Site.body?, Site.extend, bodyIn?_append_of_closes hcloses]
      · exact Or.inr (covers_of_not_closes h behind hx hcloses)

/-! ## Classes and edges -/

/-- What is taken from the sites before and behind the part, if the text behind a site
has no part in it. -/
theorem flatMap_sites_inBraces {β : Type} {take : Site → List β}
    (htake : ∀ x ∈ sites (before ++ ['{']), ∀ more, take (x.extend more) = take x) :
    (sites (inBraces before part behind)).flatMap take =
      (sites (before ++ ['{'])).flatMap take ++ (sites behind).flatMap take := by
  rw [sites_inBraces h, List.flatMap_append, List.flatMap_map]
  congr 1
  exact List.flatMap_congr fun x hx => htake x hx _

theorem names_scan_inBraces :
    (scan (inBraces before part behind)).classes.names =
      ((sites (before ++ ['{'])).flatMap Site.classes ++
        (sites behind).flatMap Site.classes).eraseDups := by
  rw [names_scan, flatMap_sites_inBraces h before behind fun x _ more => rfl]

theorem inheritances_scan_inBraces :
    (scan (inBraces before part behind)).inheritances =
      (((sites (before ++ ['{'])).flatMap Site.inheritance ++
        (sites behind).flatMap Site.inheritance).filter
          fun r => r.source ≠ r.target).eraseDups := by
  rw [inheritances_scan, inheritancesIn,
    flatMap_sites_inBraces h before behind fun x _ more => rfl]

end

theorem map_name_definitions_scan_inBraces {part : List Char} (h : Replaceable part)
    (before behind : List Char) :
    (scan (inBraces before part behind)).definitions.map Definition.name =
      ((sites (before ++ ['{'])).flatMap Site.definedName ++
        (sites behind).flatMap Site.definedName).eraseDups := by
  rw [map_name_definitions_scan, flatMap_sites_inBraces h before behind]
  intro x hx more
  have hbrace := brace_mem_of_mem_sites hx
  have hmore : '{' ∈ (x.extend more).text := List.mem_append_left more hbrace
  rw [Site.definedName_of_brace hbrace, Site.definedName_of_brace hmore]
  rfl

/-! ## Edits -/

/-- An edit between braces shows nowhere but in bodies that contain it: classes, classes
with recorded bodies and inheritance edges stay the same and in order, and every class
whose recorded body, if it has one, does not contain the edited part keeps its recorded
body and its usage edges. -/
theorem scan_inBraces {part part' : List Char} (h : Replaceable part) (h' : Replaceable part')
    (before behind : List Char) :
    (scan (inBraces before part behind)).classes =
        (scan (inBraces before part' behind)).classes ∧
      (scan (inBraces before part behind)).definitions.map Definition.name =
        (scan (inBraces before part' behind)).definitions.map Definition.name ∧
      (scan (inBraces before part behind)).inheritances =
        (scan (inBraces before part' behind)).inheritances ∧
      ∀ name : ClassName,
        (∀ range ∈ recordedRange? (inBraces before part behind) name,
          ¬ range.Covers (.after (before ++ ['{']) part)) →
        (scan (inBraces before part behind)).body? name =
            (scan (inBraces before part' behind)).body? name ∧
          (scan (inBraces before part behind)).usagesOf name =
            (scan (inBraces before part' behind)).usagesOf name := by
  have hclasses : (scan (inBraces before part behind)).classes =
      (scan (inBraces before part' behind)).classes := by
    have hnames : (scan (inBraces before part behind)).classes.names =
        (scan (inBraces before part' behind)).classes.names := by
      rw [names_scan_inBraces h, names_scan_inBraces h']
    exact congrArg ClassSet.mk hnames
  refine ⟨hclasses, ?_, ?_, ?_⟩
  · rw [map_name_definitions_scan_inBraces h, map_name_definitions_scan_inBraces h']
  · rw [inheritances_scan_inBraces h, inheritances_scan_inBraces h']
  · intro name houtside
    have hbody : (scan (inBraces before part behind)).body? name =
        (scan (inBraces before part' behind)).body? name := by
      rcases body?_inBraces_or_covers h before behind h' name with hsame | ⟨range, hrange, hcovers⟩
      · exact hsame
      · exact absurd hcovers (houtside range hrange)
    exact ⟨hbody, by rw [usagesOf_scan, usagesOf_scan, hbody, hclasses]⟩

/-- A class with a method whose body is yet to come, behind a class of its own. -/
def zooBefore : List Char :=
  "class Ape { Keeper friend; } class Zoo : Ape \x7b Ape a; void Run() ".toList

/-- The rest of the class, and a class behind it. -/
def zooBehind : List Char := " \x7d class Keeper { Zoo zoo; }".toList

/-- A body for the method. -/
def zooPart : List Char := " if (a.Wild) { Keeper.Call(); } ".toList

/-- Another body for the method. -/
def zooPart' : List Char := " return; ".toList

/-- A class whose body ends before the part. -/
def zooApe : ClassName := ⟨"Ape".toList, by decide⟩

/-- The body of the method decides whether the class around it uses the one behind it, and
nothing about the class before it. -/
theorem scan_inBraces_zoo :
    Replaceable zooPart ∧ Replaceable zooPart' ∧
      (∀ range ∈ recordedRange? (inBraces zooBefore zooPart zooBehind) zooApe,
        ¬ range.Covers (.after (zooBefore ++ ['{']) zooPart)) ∧
      (scan (inBraces zooBefore zooPart zooBehind)).relationships ≠
        (scan (inBraces zooBefore zooPart' zooBehind)).relationships ∧
      (scan (inBraces zooBefore zooPart zooBehind)).body? zooApe =
        (scan (inBraces zooBefore zooPart' zooBehind)).body? zooApe ∧
      (scan (inBraces zooBefore zooPart zooBehind)).usagesOf zooApe =
        (scan (inBraces zooBefore zooPart' zooBehind)).usagesOf zooApe := by
  have hpart : Replaceable zooPart := by decide +kernel
  have hpart' : Replaceable zooPart' := by decide +kernel
  have hdiffer : (scan (inBraces zooBefore zooPart zooBehind)).relationships ≠
      (scan (inBraces zooBefore zooPart' zooBehind)).relationships := by decide +kernel
  have houtside : ∀ range ∈ recordedRange? (inBraces zooBefore zooPart zooBehind) zooApe,
      ¬ range.Covers (.after (zooBefore ++ ['{']) zooPart) := by decide +kernel
  obtain ⟨-, -, -, hlocal⟩ := scan_inBraces hpart hpart' zooBefore zooBehind
  exact ⟨hpart, hpart', houtside, hdiffer, hlocal zooApe houtside⟩

end ClassDiagram
