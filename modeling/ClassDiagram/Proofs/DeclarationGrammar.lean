import ClassDiagram.Proofs.Respacing

/-!
# The grammar of declarations

A declaration is written as the keyword, white space and a name, possibly followed by a
colon and the name of a supertype.  This module states that grammar on the text alone,
with the conditions that make each name as long as it can be, and proves that headings
are read exactly where and as the grammar says.

Main results:

- Theorem `Heading.isSome_read?_iff`: a heading is read exactly where the keyword, white
  space and the start of a name stand.
- Theorems `Heading.read?_of_fits` and `Heading.exists_fits_of_read?`: a heading is read
  exactly as it is written.
-/

namespace ClassDiagram

open Text

/-! ## Parts of a declaration -/

/-- The text is white space or empty. -/
def Blanks (cs : List Char) : Prop :=
  ∀ c ∈ cs, isBlank c = true

/-- The text does not go on with a character of the given kind. -/
def Stops (kind : Char → Bool) (cs : List Char) : Prop :=
  ∀ c ∈ cs.head?, kind c = false

/-- The text starts with the keyword, white space and the start of a name. -/
def OpensDeclaration (cs : List Char) : Prop :=
  ∃ gap c rest, cs = classKeyword ++ (gap ++ c :: rest) ∧ Gap gap ∧ isNameStart c = true

/-- The text starts with a colon and the start of a name, each behind optional white
space. -/
def AnnouncesSupertype (cs : List Char) : Prop :=
  ∃ blanks blanks' c rest, cs = blanks ++ ':' :: (blanks' ++ c :: rest) ∧ Blanks blanks ∧
    Blanks blanks' ∧ isNameStart c = true

/-- A supertype as it is written behind its colon. -/
structure SupertypeClause where
  /-- The white space behind the colon. -/
  blanks : List Char
  /-- The class that is extended. -/
  supertype : ClassName

/-- The colon and what is written behind it. -/
def SupertypeClause.text (clause : SupertypeClause) : List Char :=
  ':' :: (clause.blanks ++ clause.supertype.letters)

/-- A declaration as it is written. -/
structure Spelling where
  /-- The white space behind the keyword. -/
  gap : List Char
  /-- The declared class. -/
  name : ClassName
  /-- The white space behind the name. -/
  blanks : List Char
  /-- The supertype, if one is named. -/
  clause : Option SupertypeClause

namespace Spelling

/-- The class that is extended, if one is named. -/
def supertype (w : Spelling) : Option ClassName :=
  w.clause.map SupertypeClause.supertype

/-- The text of the supertype and its colon; empty if no supertype is named. -/
def clauseText (w : Spelling) : List Char :=
  w.clause.elim [] SupertypeClause.text

/-- The text from the keyword to the end of the declaration. -/
def text (w : Spelling) : List Char :=
  classKeyword ++ (w.gap ++ (w.name.letters ++ (w.blanks ++ w.clauseText)))

/-- The text behind the name, with what follows the declaration. -/
def behindName (w : Spelling) (rest : List Char) : List Char :=
  w.blanks ++ (w.clauseText ++ rest)

/-- The declaration is written as it should be if the text goes on with the given rest:
white space stands where it may and has to, both names are as long as they can be, and
a supertype is named exactly if one is announced. -/
structure Fits (w : Spelling) (rest : List Char) : Prop where
  gap : Gap w.gap
  blanks : Blanks w.blanks
  name_ends : Stops isNameChar (w.behindName rest)
  clause_iff : w.clause.isSome = true ↔ AnnouncesSupertype (w.behindName rest)
  clause_blanks : ∀ clause ∈ w.clause, Blanks clause.blanks
  clause_ends : ∀ clause ∈ w.clause, Stops isNameChar rest
  blanks_end : w.clause = none → Stops isBlank rest

end Spelling

/-! ## Runs of characters -/

section Runs

variable {kind : Char → Bool} {part rest : List Char}

/-- A run is passed over up to where it stops. -/
theorem dropWhile_of_stops (hpart : ∀ c ∈ part, kind c = true) (hrest : Stops kind rest) :
    (part ++ rest).dropWhile kind = rest := by
  rw [List.dropWhile_append_of_pos hpart]
  cases rest with
  | nil => rfl
  | cons c rest => exact List.dropWhile_cons_of_neg (by simp [hrest c rfl])

theorem takeWhile_of_stops (hpart : ∀ c ∈ part, kind c = true) (hrest : Stops kind rest) :
    (part ++ rest).takeWhile kind = part := by
  have hall := List.takeWhile_append_dropWhile (p := kind) (l := part ++ rest)
  rw [dropWhile_of_stops hpart hrest] at hall
  exact List.append_cancel_right hall

theorem stops_dropWhile (kind : Char → Bool) (cs : List Char) : Stops kind (cs.dropWhile kind) := by
  intro c hc
  have hhead := List.head?_dropWhile_not kind cs
  rw [hc] at hhead
  simpa using hhead

/-- A text is white space, if it starts with any, and what is left of it. -/
theorem exists_blanks (cs : List Char) : ∃ blanks, Blanks blanks ∧ cs = blanks ++ dropBlanks cs :=
  ⟨cs.takeWhile isBlank, fun _ hc => List.mem_takeWhile_imp hc,
    List.takeWhile_append_dropWhile.symm⟩

end Runs

theorem stops_blank_of_isNameStart {c : Char} (hc : isNameStart c = true) (cs : List Char) :
    Stops isBlank (c :: cs) := by
  intro d hd
  cases hd
  rw [← Bool.not_eq_true]
  intro hblank
  rw [isNameStart_of_isBlank hblank] at hc
  cases hc

/-! ## Names -/

namespace ClassName

theorem exists_letters_eq_cons (n : ClassName) :
    ∃ c cs, n.letters = c :: cs ∧ isNameStart c = true := by
  obtain ⟨letters, hname⟩ := n
  cases letters with
  | nil => cases hname
  | cons c cs => exact ⟨c, cs, rfl, (Bool.and_eq_true_iff.mp hname).1⟩

/-- No white space stands in front of a name. -/
theorem stops_blank_letters (n : ClassName) (cs : List Char) : Stops isBlank (n.letters ++ cs) := by
  obtain ⟨c, letters, hletters, hstart⟩ := n.exists_letters_eq_cons
  rw [hletters]
  exact stops_blank_of_isNameStart hstart _

/-- The name at the start of a text is as long as it can be. -/
theorem read?_eq_some_iff {cs rest : List Char} {n : ClassName} :
    read? cs = some (n, rest) ↔ cs = n.letters ++ rest ∧ Stops isNameChar rest := by
  constructor
  · intro h
    refine ⟨(append_of_read? h).symm, ?_⟩
    unfold read? at h
    split at h
    next => cases h
    next c cs =>
      split at h
      · cases h
        exact stops_dropWhile isNameChar cs
      · cases h
  · rintro ⟨rfl, hrest⟩
    obtain ⟨letters, hname⟩ := n
    cases letters with
    | nil => cases hname
    | cons c letters =>
        obtain ⟨hstart, hall⟩ := Bool.and_eq_true_iff.mp hname
        have hletters := List.all_eq_true.mp hall
        simp only [List.cons_append, read?, hstart, dif_pos, takeWhile_of_stops hletters hrest,
          dropWhile_of_stops hletters hrest]

/-- A name is read exactly where one starts. -/
theorem isSome_read?_iff {cs : List Char} :
    (read? cs).isSome = true ↔ ∃ c rest, cs = c :: rest ∧ isNameStart c = true := by
  cases cs with
  | nil => simp
  | cons c cs => by_cases hc : isNameStart c = true <;> simp [read?, hc]

end ClassName

/-! ## Supertypes -/

/-- A supertype is read behind a name as the grammar says. -/
theorem readSupertype?_eq_some_iff {cs rest : List Char} {n : ClassName} :
    readSupertype? (dropBlanks cs) = some (n, rest) ↔
      ∃ blanks blanks', cs = blanks ++ ':' :: (blanks' ++ (n.letters ++ rest)) ∧ Blanks blanks ∧
        Blanks blanks' ∧ Stops isNameChar rest := by
  constructor
  · intro h
    obtain ⟨blanks, hblanks, hcs⟩ := exists_blanks cs
    unfold readSupertype? at h
    split at h
    next t hcolon =>
      obtain ⟨blanks', hblanks', ht⟩ := exists_blanks t
      obtain ⟨hname, hrest⟩ := ClassName.read?_eq_some_iff.mp h
      exact ⟨blanks, blanks', by rw [← hname, ← ht, ← hcolon, ← hcs], hblanks, hblanks', hrest⟩
    next => cases h
  · rintro ⟨blanks, blanks', rfl, hblanks, hblanks', hrest⟩
    have hcolon : Stops isBlank (':' :: (blanks' ++ (n.letters ++ rest))) := by
      intro c hc
      cases hc
      decide
    rw [dropBlanks, dropWhile_of_stops hblanks hcolon, readSupertype?, dropBlanks,
      dropWhile_of_stops hblanks' (n.stops_blank_letters rest)]
    exact ClassName.read?_eq_some_iff.mpr ⟨rfl, hrest⟩

/-- A supertype is read exactly where one is announced. -/
theorem isSome_readSupertype?_iff {cs : List Char} :
    (readSupertype? (dropBlanks cs)).isSome = true ↔ AnnouncesSupertype cs := by
  constructor
  · intro h
    obtain ⟨⟨n, rest⟩, hread⟩ := Option.isSome_iff_exists.mp h
    obtain ⟨blanks, blanks', rfl, hblanks, hblanks', -⟩ := readSupertype?_eq_some_iff.mp hread
    obtain ⟨c, letters, hletters, hstart⟩ := n.exists_letters_eq_cons
    exact ⟨blanks, blanks', c, letters ++ rest, by rw [hletters, List.cons_append], hblanks,
      hblanks', hstart⟩
  · rintro ⟨blanks, blanks', c, rest, rfl, hblanks, hblanks', hstart⟩
    obtain ⟨⟨n, rest'⟩, hread⟩ := Option.isSome_iff_exists.mp
      (ClassName.isSome_read?_iff.mpr ⟨c, rest, rfl, hstart⟩)
    obtain ⟨hname, hrest'⟩ := ClassName.read?_eq_some_iff.mp hread
    rw [Option.isSome_iff_exists]
    refine ⟨(n, rest'), readSupertype?_eq_some_iff.mpr ?_⟩
    exact ⟨blanks, blanks', by rw [hname], hblanks, hblanks', hrest'⟩

/-! ## Headings -/

/-- White space that has to be there is dropped up to where it stops. -/
theorem dropBlanks1?_eq_some_iff {cs rest : List Char} :
    dropBlanks1? cs = some rest ↔ ∃ gap, cs = gap ++ rest ∧ Gap gap ∧ Stops isBlank rest := by
  constructor
  · intro h
    unfold dropBlanks1? at h
    split at h
    next c cs =>
      split at h
      next hc =>
        cases h
        obtain ⟨blanks, hblanks, hcs⟩ := exists_blanks cs
        refine ⟨c :: blanks, by rw [List.cons_append, ← hcs], ⟨by simp, ?_⟩,
          stops_dropWhile isBlank cs⟩
        exact List.forall_mem_cons.mpr ⟨hc, hblanks⟩
      next => cases h
    next => cases h
  · rintro ⟨gap, rfl, hgap, hrest⟩
    rw [hgap.dropBlanks1?_append, dropBlanks, ← List.nil_append rest,
      dropWhile_of_stops (by simp) hrest, List.nil_append]

namespace Heading

/-- Behind its name a declaration is read as it is written. -/
theorem ofName_behindName {w : Spelling} {rest : List Char} (h : w.Fits rest) :
    ofName w.name (w.behindName rest) = ⟨w.name, w.supertype, rest⟩ := by
  cases hclause : w.clause with
  | none =>
      have hread : readSupertype? (dropBlanks (w.behindName rest)) = none := by
        rw [← Option.not_isSome_iff_eq_none, isSome_readSupertype?_iff, ← h.clause_iff, hclause]
        exact Bool.false_ne_true
      have hdrop : dropBlanks (w.behindName rest) = rest := by
        simp only [Spelling.behindName, Spelling.clauseText, hclause, Option.elim_none,
          List.nil_append]
        exact dropWhile_of_stops h.blanks (h.blanks_end hclause)
      rw [ofName, hread, hdrop, Spelling.supertype, hclause, Option.map_none]
  | some clause =>
      have hread : readSupertype? (dropBlanks (w.behindName rest)) =
          some (clause.supertype, rest) := by
        refine readSupertype?_eq_some_iff.mpr ⟨w.blanks, clause.blanks, ?_, h.blanks,
          h.clause_blanks clause hclause, h.clause_ends clause hclause⟩
        simp [Spelling.behindName, Spelling.clauseText, hclause, SupertypeClause.text]
      rw [ofName, hread, Spelling.supertype, hclause, Option.map_some]

/-- What is written as a declaration is read as it is written. -/
theorem read?_of_fits {w : Spelling} {rest : List Char} (h : w.Fits rest) :
    read? (w.text ++ rest) = some ⟨w.name, w.supertype, rest⟩ := by
  have hkeyword : afterLead? classKeyword (w.text ++ rest) =
      some (w.gap ++ (w.name.letters ++ w.behindName rest)) := by
    rw [afterLead?_eq_some_iff]
    simp [Spelling.text, Spelling.behindName]
  have hgap : dropBlanks1? (w.gap ++ (w.name.letters ++ w.behindName rest)) =
      some (w.name.letters ++ w.behindName rest) :=
    dropBlanks1?_eq_some_iff.mpr ⟨w.gap, rfl, h.gap, w.name.stops_blank_letters _⟩
  have hname : ClassName.read? (w.name.letters ++ w.behindName rest) =
      some (w.name, w.behindName rest) :=
    ClassName.read?_eq_some_iff.mpr ⟨rfl, h.name_ends⟩
  rw [read?_eq_bind, hkeyword, Option.bind_some, hgap, Option.bind_some, hname, Option.bind_some,
    ofName_behindName h]

/-- What is read behind a name is written there. -/
theorem exists_fits_ofName {gap tail : List Char} (hgap : Gap gap) (name : ClassName)
    (htail : Stops isNameChar tail) :
    ∃ w : Spelling, w.gap = gap ∧ w.name = name ∧ tail = w.behindName (ofName name tail).rest ∧
      w.supertype = (ofName name tail).supertype ∧ w.Fits (ofName name tail).rest := by
  have hannounced : (readSupertype? (dropBlanks tail)).isSome = true ↔ AnnouncesSupertype tail :=
    isSome_readSupertype?_iff
  cases hread : readSupertype? (dropBlanks tail) with
  | none =>
      obtain ⟨blanks, hblanks, hdrop⟩ := exists_blanks tail
      have hheading : ofName name tail = ⟨name, none, dropBlanks tail⟩ := by
        rw [ofName, hread]
      have hbehind : Spelling.behindName ⟨gap, name, blanks, none⟩ (dropBlanks tail) = tail :=
        hdrop.symm
      rw [hread] at hannounced
      rw [hheading]
      refine ⟨⟨gap, name, blanks, none⟩, rfl, rfl, hdrop, rfl, ?_⟩
      constructor
      · exact hgap
      · exact hblanks
      · rwa [hbehind]
      · rwa [hbehind]
      · simp
      · simp
      · exact fun _ => stops_dropWhile isBlank tail
  | some p =>
      obtain ⟨supertype, rest⟩ := p
      have hheading : ofName name tail = ⟨name, some supertype, rest⟩ := by
        rw [ofName, hread]
      obtain ⟨blanks, blanks', hcs, hblanks, hblanks', hrest⟩ := readSupertype?_eq_some_iff.mp hread
      have hbehind : Spelling.behindName ⟨gap, name, blanks, some ⟨blanks', supertype⟩⟩ rest =
          tail := by
        rw [hcs]
        simp [Spelling.behindName, Spelling.clauseText, SupertypeClause.text]
      rw [hread] at hannounced
      rw [hheading]
      refine ⟨⟨gap, name, blanks, some ⟨blanks', supertype⟩⟩, rfl, rfl, hbehind.symm, rfl, ?_⟩
      constructor
      · exact hgap
      · exact hblanks
      · rwa [hbehind]
      · rwa [hbehind]
      · simpa using hblanks'
      · simpa using hrest
      · simp

/-- What is read as a declaration is written as one. -/
theorem exists_fits_of_read? {cs : List Char} {h : Heading} (hr : read? cs = some h) :
    ∃ w : Spelling, cs = w.text ++ h.rest ∧ w.name = h.name ∧ w.supertype = h.supertype ∧
      w.Fits h.rest := by
  obtain ⟨afterKeyword, atName, tail, hkeyword, hblanks, hname, hh⟩ := read?_eq_some_iff.mp hr
  obtain ⟨gap, rfl, hgap, -⟩ := dropBlanks1?_eq_some_iff.mp hblanks
  obtain ⟨rfl, htail⟩ := ClassName.read?_eq_some_iff.mp hname
  obtain ⟨w, rfl, hwname, hwtail, hwsupertype, hfits⟩ := exists_fits_ofName hgap h.name htail
  rw [← hh] at hwtail hwsupertype hfits
  refine ⟨w, ?_, hwname, hwsupertype, hfits⟩
  rw [afterLead?_eq_some_iff.mp hkeyword, hwtail, ← hwname]
  simp only [Spelling.text, Spelling.behindName, List.append_assoc]

/-- A heading is read exactly where the keyword, white space and the start of a name
stand. -/
theorem isSome_read?_iff {cs : List Char} :
    (read? cs).isSome = true ↔ OpensDeclaration cs := by
  constructor
  · intro hsome
    obtain ⟨h, hr⟩ := Option.isSome_iff_exists.mp hsome
    obtain ⟨w, rfl, -, -, hfits⟩ := exists_fits_of_read? hr
    obtain ⟨c, letters, hletters, hstart⟩ := w.name.exists_letters_eq_cons
    refine ⟨w.gap, c, letters ++ w.behindName h.rest, ?_, hfits.gap, hstart⟩
    simp [Spelling.text, Spelling.behindName, hletters]
  · rintro ⟨gap, c, rest, rfl, hgap, hstart⟩
    obtain ⟨⟨name, tail⟩, hname⟩ := Option.isSome_iff_exists.mp
      (ClassName.isSome_read?_iff.mpr ⟨c, rest, rfl, hstart⟩)
    have hblanks : dropBlanks1? (gap ++ c :: rest) = some (c :: rest) :=
      dropBlanks1?_eq_some_iff.mpr ⟨gap, rfl, hgap, stops_blank_of_isNameStart hstart rest⟩
    rw [read?_eq_bind, afterLead?_append, Option.bind_some, hblanks, Option.bind_some, hname]
    rfl

end Heading

end ClassDiagram
