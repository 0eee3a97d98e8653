import ClassDiagram.Proofs.DeclarationGrammar
import ClassDiagram.Scan.Usage

/-!
# The grammar of uses

Each kind of evidence that a body uses a class is a pattern around the name of the class.
This module states the patterns on the text alone, as conditions on what stands before and
behind a place where the name stands, and proves that each is found exactly where some
place meets them.  Every place counts, also one that overlaps another or stands behind one
that does not meet them.

Main results:

- Theorems `ClassName.isInstantiatedIn_iff`, `ClassName.isAccessedIn_iff` and
  `ClassName.isMentionedIn_iff`: each pattern by the places where the name stands.
- Theorem `tokenEnds_iff`: a token ends exactly where no word character follows.
- Theorem `ClassName.evidenceIn_by_occurrences`: the evidence is what the patterns show.
-/

namespace ClassDiagram

open Text

/-! ## Places of a name -/

/-- A place in a body where the name of a class stands. -/
structure Occurrence (name : ClassName) (body : List Char) where
  /-- The text before the name. -/
  before : List Char
  /-- The text behind the name. -/
  behind : List Char
  /-- The body is made up of the three. -/
  body_eq : body = before ++ (name.letters ++ behind)

/-- A token may start behind the text: it is empty, or its last character is of no name. -/
def FreshBehind (cs : List Char) : Prop :=
  cs = [] ∨ EndsOutsideName cs

/-- The text ends with the word `new` and white space. -/
def EndsWithNew (cs : List Char) : Prop :=
  ∃ lead gap, cs = lead ++ (newKeyword ++ gap) ∧ Gap gap

/-- The text starts with an opening parenthesis behind optional white space. -/
def OpensCall (cs : List Char) : Prop :=
  ∃ blanks rest, cs = blanks ++ '(' :: rest ∧ Blanks blanks

/-- The text starts with a dot and the start of a name, each behind optional white
space. -/
def OpensMember (cs : List Char) : Prop :=
  ∃ blanks blanks' c rest, cs = blanks ++ '.' :: (blanks' ++ c :: rest) ∧ Blanks blanks ∧
    Blanks blanks' ∧ isNameStart c = true

theorem freshBehind_cons_iff {c : Char} {cs : List Char} :
    FreshBehind (c :: cs) ↔ FreshBehind cs ∧ (cs = [] → isNameChar c = false) := by
  cases cs with
  | nil => simp [FreshBehind, EndsOutsideName]
  | cons d cs => simp [FreshBehind, EndsOutsideName, List.getLast?_cons]

/-! ## What follows a name -/

/-- After white space a character follows that is none itself. -/
theorem nextIs_iff {c : Char} (hc : isBlank c = false) {cs : List Char} :
    nextIs c cs = true ↔ ∃ blanks rest, cs = blanks ++ c :: rest ∧ Blanks blanks := by
  constructor
  · intro h
    obtain ⟨blanks, hblanks, hcs⟩ := exists_blanks cs
    obtain ⟨rest, hrest⟩ := List.head?_eq_some_iff.mp (beq_iff_eq.mp h)
    exact ⟨blanks, rest, by rw [hcs, hrest], hblanks⟩
  · rintro ⟨blanks, rest, rfl, hblanks⟩
    have hstops : Stops isBlank (c :: rest) := by
      intro d hd
      cases hd
      exact hc
    rw [nextIs, dropBlanks, dropWhile_of_stops hblanks hstops, List.head?_cons, beq_self_eq_true]

theorem memberFollows_iff {cs : List Char} : memberFollows cs = true ↔ OpensMember cs := by
  constructor
  · intro h
    obtain ⟨blanks, hblanks, hcs⟩ := exists_blanks cs
    unfold memberFollows at h
    split at h
    next t hdot =>
      obtain ⟨blanks', hblanks', ht⟩ := exists_blanks t
      rw [Option.any_eq_true] at h
      obtain ⟨c, hc, hstart⟩ := h
      obtain ⟨rest, hrest⟩ := List.head?_eq_some_iff.mp hc
      exact ⟨blanks, blanks', c, rest, by rw [← hrest, ← ht, ← hdot, ← hcs], hblanks, hblanks',
        hstart⟩
    next => cases h
  · rintro ⟨blanks, blanks', c, rest, rfl, hblanks, hblanks', hstart⟩
    have hdot : Stops isBlank ('.' :: (blanks' ++ c :: rest)) := by
      intro d hd
      cases hd
      decide
    have hmember : dropBlanks (blanks' ++ c :: rest) = c :: rest :=
      dropWhile_of_stops hblanks' (stops_blank_of_isNameStart hstart rest)
    rw [memberFollows, dropBlanks, dropWhile_of_stops hblanks hdot]
    change (dropBlanks (blanks' ++ c :: rest)).head?.any isNameStart = true
    rw [hmember, List.head?_cons, Option.any_some, hstart]

/-- A token ends exactly where no word character follows: the question mark and the
brackets are no word characters anyway. -/
theorem tokenEnds_iff {cs : List Char} : tokenEnds cs = true ↔ Stops isWordChar cs := by
  cases cs with
  | nil => simp [tokenEnds, Stops]
  | cons c cs =>
      have hquestion : isWordChar '?' = false := isWordChar_eq_isNameChar (by decide)
      have hangle : isWordChar '<' = false := isWordChar_eq_isNameChar (by decide)
      have hsquare : isWordChar '[' = false := isWordChar_eq_isNameChar (by decide)
      have hstops : Stops isWordChar (c :: cs) ↔ isWordChar c = false := by simp [Stops]
      rw [hstops]
      constructor
      · intro h
        simp only [tokenEnds, Bool.or_eq_true, beq_iff_eq, Bool.not_eq_true'] at h
        rcases h with ((rfl | hword) | rfl) | rfl
        · exact hquestion
        · exact hword
        · exact hangle
        · exact hsquare
      · intro hword
        simp [tokenEnds, hword]

/-! ## Patterns at one place -/

namespace ClassName

variable {target : ClassName} {cs : List Char}

theorem createsAt_iff : createsAt target.letters cs = true ↔
    ∃ gap behind, cs = newKeyword ++ (gap ++ (target.letters ++ behind)) ∧ Gap gap ∧
      OpensCall behind := by
  have hparen : isBlank '(' = false := by decide
  constructor
  · intro h
    simp only [createsAt, Option.any_eq_true, Option.bind_eq_some_iff] at h
    obtain ⟨atTarget, ⟨afterNew, hnew, hblanks⟩, behind, htarget, hnext⟩ := h
    obtain ⟨gap, rfl, hgap, -⟩ := dropBlanks1?_eq_some_iff.mp hblanks
    rw [afterLead?_eq_some_iff] at hnew htarget
    exact ⟨gap, behind, by rw [hnew, htarget], hgap, (nextIs_iff hparen).mp hnext⟩
  · rintro ⟨gap, behind, rfl, hgap, hcall⟩
    have hblanks : dropBlanks1? (gap ++ (target.letters ++ behind)) =
        some (target.letters ++ behind) :=
      dropBlanks1?_eq_some_iff.mpr ⟨gap, rfl, hgap, target.stops_blank_letters behind⟩
    rw [createsAt, afterLead?_append, Option.bind_some, hblanks, Option.any_some,
      afterLead?_append, Option.any_some]
    exact (nextIs_iff hparen).mpr hcall

theorem accessesAt_iff : accessesAt target.letters cs = true ↔
    ∃ behind, cs = target.letters ++ behind ∧ OpensMember behind := by
  simp only [accessesAt, Option.any_eq_true, afterLead?_eq_some_iff, memberFollows_iff]

theorem mentionsAt_iff : mentionsAt target.letters cs = true ↔
    ∃ behind, cs = target.letters ++ behind ∧ Stops isWordChar behind := by
  simp only [mentionsAt, Option.any_eq_true, afterLead?_eq_some_iff, tokenEnds_iff]

/-! ## Patterns at any place -/

/-- A mention is looked for wherever no name character stands before; at the front of the
text the flag decides. -/
theorem mentionedFrom_iff {fresh : Bool} : mentionedFrom target.letters fresh cs = true ↔
    ∃ before rest, cs = before ++ rest ∧ mentionsAt target.letters rest = true ∧
      FreshBehind before ∧ (before = [] → fresh = true) := by
  induction cs generalizing fresh with
  | nil =>
      rw [mentionedFrom, Bool.and_eq_true]
      constructor
      · rintro ⟨hfresh, hhere⟩
        exact ⟨[], [], rfl, hhere, Or.inl rfl, fun _ => hfresh⟩
      · rintro ⟨before, rest, heq, hhere, -, hfresh⟩
        obtain ⟨rfl, rfl⟩ := List.append_eq_nil_iff.mp heq.symm
        exact ⟨hfresh rfl, hhere⟩
  | cons c cs ih =>
      rw [mentionedFrom, Bool.or_eq_true, Bool.and_eq_true, ih]
      constructor
      · rintro (⟨hfresh, hhere⟩ | ⟨before, rest, rfl, hlater, hbehind, hfresh⟩)
        · exact ⟨[], c :: cs, rfl, hhere, Or.inl rfl, fun _ => hfresh⟩
        · have hname : before = [] → isNameChar c = false := by simpa using hfresh
          exact ⟨c :: before, rest, rfl, hlater, freshBehind_cons_iff.mpr ⟨hbehind, hname⟩,
            by simp⟩
      · rintro ⟨before, rest, heq, hhere, hbehind, hfresh⟩
        cases before with
        | nil =>
            rw [List.nil_append] at heq
            exact Or.inl ⟨hfresh rfl, heq ▸ hhere⟩
        | cons d before =>
            obtain ⟨rfl, rfl⟩ := List.cons.inj heq
            obtain ⟨hbehind, hname⟩ := freshBehind_cons_iff.mp hbehind
            exact Or.inr ⟨before, rest, rfl, hhere, hbehind, by simpa using hname⟩

variable {body : List Char}

/-- An instance is created where the name stands between `new` and a parenthesis. -/
theorem isInstantiatedIn_iff : target.isInstantiatedIn body = true ↔
    ∃ o : Occurrence target body, EndsWithNew o.before ∧ OpensCall o.behind := by
  rw [isInstantiatedIn, somewhere_iff]
  constructor
  · rintro ⟨lead, rest, rfl, hrest⟩
    obtain ⟨gap, behind, rfl, hgap, hcall⟩ := createsAt_iff.mp hrest
    exact ⟨⟨lead ++ (newKeyword ++ gap), behind, by simp⟩, ⟨lead, gap, rfl, hgap⟩, hcall⟩
  · rintro ⟨⟨_, behind, rfl⟩, ⟨lead, gap, rfl, hgap⟩, hcall⟩
    refine ⟨lead, newKeyword ++ (gap ++ (target.letters ++ behind)), by simp, ?_⟩
    exact createsAt_iff.mpr ⟨gap, behind, rfl, hgap, hcall⟩

/-- A member is accessed where a dot and a name follow; what stands before does not
matter. -/
theorem isAccessedIn_iff : target.isAccessedIn body = true ↔
    ∃ o : Occurrence target body, OpensMember o.behind := by
  rw [isAccessedIn, somewhere_iff]
  constructor
  · rintro ⟨lead, rest, rfl, hrest⟩
    obtain ⟨behind, rfl, hmember⟩ := accessesAt_iff.mp hrest
    exact ⟨⟨lead, behind, rfl⟩, hmember⟩
  · rintro ⟨⟨before, behind, rfl⟩, hmember⟩
    exact ⟨before, _, rfl, accessesAt_iff.mpr ⟨behind, rfl, hmember⟩⟩

/-- A class is mentioned where no name character stands before its name and no word
character behind. -/
theorem isMentionedIn_iff : target.isMentionedIn body = true ↔
    ∃ o : Occurrence target body, FreshBehind o.before ∧ Stops isWordChar o.behind := by
  rw [isMentionedIn, mentionedFrom_iff]
  constructor
  · rintro ⟨before, rest, rfl, hrest, hfresh, -⟩
    obtain ⟨behind, rfl, hstops⟩ := mentionsAt_iff.mp hrest
    exact ⟨⟨before, behind, rfl⟩, hfresh, hstops⟩
  · rintro ⟨⟨before, behind, rfl⟩, hfresh, hstops⟩
    exact ⟨before, _, rfl, mentionsAt_iff.mpr ⟨behind, rfl, hstops⟩, hfresh, fun _ => rfl⟩

end ClassName

/-! ## Evidence -/

/-- The kinds of evidence in the order in which they are listed. -/
def Evidence.inOrder : List Evidence :=
  [.instantiation, .staticAccess, .typeReference]

/-- Whether the body shows the given kind of evidence for the use of the class. -/
def ClassName.isShownIn (target : ClassName) (body : List Char) : Evidence → Bool
  | .instantiation => target.isInstantiatedIn body
  | .staticAccess => target.isAccessedIn body
  | .typeReference => target.isMentionedIn body

theorem ClassName.evidenceIn_eq_filter (target : ClassName) (body : List Char) :
    target.evidenceIn body = Evidence.inOrder.filter (target.isShownIn body) := by
  cases hcreated : target.isInstantiatedIn body <;>
    cases haccessed : target.isAccessedIn body <;>
    cases hmentioned : target.isMentionedIn body <;>
    simp [evidenceIn, Evidence.inOrder, isShownIn, hcreated, haccessed, hmentioned]

/-- The patterns mean what they are written for.  An instance is created exactly where the
name stands between the word `new` and an opening parenthesis, a member is accessed
exactly where a dot and the start of a name follow, and the class is mentioned exactly
where no name character stands before and no word character behind; nothing else ends a
token.  The evidence lists the patterns that are found, in their order. -/
theorem ClassName.evidenceIn_by_occurrences (target : ClassName) (body : List Char) :
    (target.isInstantiatedIn body = true ↔
      ∃ o : Occurrence target body, EndsWithNew o.before ∧ OpensCall o.behind) ∧
    (target.isAccessedIn body = true ↔
      ∃ o : Occurrence target body, OpensMember o.behind) ∧
    (target.isMentionedIn body = true ↔
      ∃ o : Occurrence target body, FreshBehind o.before ∧ Stops isWordChar o.behind) ∧
    (∀ o : Occurrence target body, tokenEnds o.behind = true ↔ Stops isWordChar o.behind) ∧
    target.evidenceIn body = Evidence.inOrder.filter (target.isShownIn body) :=
  ⟨isInstantiatedIn_iff, isAccessedIn_iff, isMentionedIn_iff, fun _ => tokenEnds_iff,
    target.evidenceIn_eq_filter body⟩

/-- The second of two places that overlap. -/
example : ClassName.isAccessedIn ⟨"ana".toList, by decide⟩ "anana.x".toList = true := by
  decide

end ClassDiagram
