import ClassDiagram.Proofs.Site
import Mathlib.Data.List.TakeWhile

/-!
# Sites in longer texts

The sites of a text that does not end inside a name are also the sites at the
front of any longer text, except at the very end: there the text may break off
behind the keyword, or behind a name that still awaits its supertype.  A closing
brace at the end of a text rules that out, and then the sites of a longer text are
those of the text followed by those of the rest.

Main results:

- Theorem `exists_settled_sites`: the sites of a text are settled up to a dangling
  end.
- Theorems `sites_append_of_barrier` and `sites_append_of_brace`: behind a character
  that no heading goes on with, such as a brace, the search for declarations starts
  afresh.
- Theorem `sites_of_dangling`: a dangling end holds at most one site, which
  longer texts keep.
-/

namespace ClassDiagram

open Text

/-! ## Texts without declarations -/

/-- A heading starts with the first letter of its keyword. -/
theorem Heading.read?_cons_of_ne {c : Char} (hc : c ≠ 'c') (cs : List Char) :
    Heading.read? (c :: cs) = none := by
  have hkeyword : afterLead? classKeyword (c :: cs) = none := by
    rw [classKeyword, afterLead?, if_neg fun h => hc h.symm]
  rw [Heading.read?_eq_bind, hkeyword]
  rfl

theorem sites_eq_nil_of_not_mem {cs : List Char} (h : 'c' ∉ cs) : sites cs = [] := by
  induction cs with
  | nil => exact sites_nil
  | cons c cs ih =>
      obtain ⟨hc, hcs⟩ := not_or.mp (List.mem_cons.not.mp h)
      rw [sites_cons_of_read? (Heading.read?_cons_of_ne (fun heq => hc heq.symm) cs), ih hcs]

theorem ne_of_blank {c : Char} (h : isBlank c = true) : c ≠ 'c' := by
  rintro rfl
  exact absurd h (by decide)

theorem not_mem_of_blank {cs : List Char} (h : ∀ c ∈ cs, isBlank c = true) : 'c' ∉ cs :=
  fun hmem => ne_of_blank (h 'c' hmem) rfl

/-- White space before a text changes none of its sites. -/
theorem sites_append_of_blank {blanks : List Char} (h : ∀ c ∈ blanks, isBlank c = true)
    (cs : List Char) : sites (blanks ++ cs) = sites cs := by
  induction blanks with
  | nil => rfl
  | cons c blanks ih =>
      have hc : c ≠ 'c' := ne_of_blank (h c List.mem_cons_self)
      rw [List.cons_append, sites_cons_of_read? (Heading.read?_cons_of_ne hc _),
        ih fun d hd => h d (List.mem_cons_of_mem c hd)]

theorem dropBlanks_eq_nil_iff {cs : List Char} :
    dropBlanks cs = [] ↔ ∀ c ∈ cs, isBlank c = true :=
  List.dropWhile_eq_nil_iff

/-! ## Dangling ends -/

theorem mem_of_mem_dropBlanks {cs : List Char} {c : Char} (h : c ∈ cs) :
    c ∈ dropBlanks cs ∨ isBlank c = true := by
  rw [← List.takeWhile_append_dropWhile (p := isBlank) (l := cs), List.mem_append] at h
  rcases h with h | h
  · exact Or.inr (List.mem_takeWhile_imp h)
  · exact Or.inl h

theorem mem_of_dropBlanks1? {cs rest : List Char} (h : dropBlanks1? cs = some rest) {c : Char}
    (hc : c ∈ cs) : c ∈ rest ∨ isBlank c = true := by
  unfold dropBlanks1? at h
  split at h
  next d cs =>
    split at h
    next hd =>
      cases h
      rcases List.mem_cons.mp hc with rfl | hc
      · exact Or.inr hd
      · exact mem_of_mem_dropBlanks hc
    next => cases h
  next => cases h

theorem AwaitsSupertype.char_cases {cs : List Char} (h : AwaitsSupertype cs) {c : Char}
    (hc : c ∈ cs) : isBlank c = true ∨ c = ':' := by
  rcases mem_of_mem_dropBlanks hc with hc | hc
  · rcases h with h | ⟨t, h, ht⟩
    · rw [h] at hc
      cases hc
    · rw [h, List.mem_cons] at hc
      rcases hc with hc | hc
      · exact Or.inr hc
      · exact Or.inl (dropBlanks_eq_nil_iff.mp ht c hc)
  · exact Or.inl hc

/-- A dangling text consists of what names are made of, white space and colons. -/
theorem Dangling.char_cases {cs : List Char} (h : Dangling cs) {c : Char} (hc : c ∈ cs) :
    isNameChar c = true ∨ isBlank c = true ∨ c = ':' := by
  obtain ⟨afterKeyword, atName, hkeyword, hblanks, hname⟩ := h
  rw [afterLead?_eq_some_iff.mp hkeyword, List.mem_append] at hc
  rcases hc with hc | hc
  · exact Or.inl (Heading.isNameChar_of_mem_classKeyword hc)
  rcases mem_of_dropBlanks1? hblanks hc with hc | hc
  · rcases hname with rfl | ⟨name, tail, hname, -, htail⟩
    · cases hc
    · rw [← ClassName.append_of_read? hname, List.mem_append] at hc
      rcases hc with hc | hc
      · exact Or.inl (ClassName.isNameChar_of_mem hc)
      · exact Or.inr (htail.char_cases hc)
  · exact Or.inr (Or.inl hc)

/-- Where a name is still to come there is no declaration yet. -/
theorem sites_of_awaits_name {cs afterKeyword : List Char}
    (hkeyword : afterLead? classKeyword cs = some afterKeyword)
    (hblanks : dropBlanks1? afterKeyword = some []) : sites cs = [] := by
  have hread : Heading.read? cs = none := by
    rw [Heading.read?_eq_bind, hkeyword, Option.bind_some, hblanks]
    rfl
  have hblank : ∀ c ∈ afterKeyword, isBlank c = true := by
    intro c hc
    rcases mem_of_dropBlanks1? hblanks hc with hc | hc
    · cases hc
    · exact hc
  have hnot : 'c' ∉ ['l', 'a', 's', 's'] ++ afterKeyword := by
    rw [List.mem_append, not_or]
    exact ⟨by decide, not_mem_of_blank hblank⟩
  rw [afterLead?_eq_some_iff.mp hkeyword, classKeyword] at hread ⊢
  rw [List.cons_append] at hread ⊢
  rw [sites_cons_of_read? hread]
  exact sites_eq_nil_of_not_mem hnot

/-- Where only a supertype is still to come there is one declaration, and whatever
follows leaves its name as it is. -/
theorem sites_of_awaitsSupertype {cs afterKeyword atName tail : List Char} {name : ClassName}
    (hkeyword : afterLead? classKeyword cs = some afterKeyword)
    (hblanks : dropBlanks1? afterKeyword = some atName)
    (hname : ClassName.read? atName = some (name, tail)) (htail : tail ≠ [])
    (hawaits : AwaitsSupertype tail) :
    sites cs = [⟨name, none, cs⟩] ∧
      ∀ more, ∃ supertype rest, sites (cs ++ more) = ⟨name, supertype, cs ++ more⟩ :: rest := by
  have hread : Heading.read? cs = some ⟨name, none, dropBlanks tail⟩ := by
    rw [Heading.read?_eq_bind, hkeyword, Option.bind_some, hblanks, Option.bind_some, hname,
      Option.bind_some, Heading.ofName_of_awaitsSupertype hawaits]
  have hnot : 'c' ∉ dropBlanks tail := by
    intro hmem
    rcases hawaits.char_cases ((dropBlanks_suffix tail).mem hmem) with hblank | hcolon
    · exact ne_of_blank hblank rfl
    · exact absurd hcolon (by decide)
  constructor
  · rw [sites_of_read? hread, sites_eq_nil_of_not_mem hnot]
  · intro more
    have hat : atName ≠ [] := by
      rintro rfl
      cases hname
    have hreadMore : Heading.read? (cs ++ more) =
        some (Heading.ofName name (tail ++ more)) := by
      rw [Heading.read?_eq_bind, afterLead?_append_of_some hkeyword, Option.bind_some,
        dropBlanks1?_append_of_some hblanks hat, Option.bind_some,
        ClassName.read?_append_of_some hname htail, Option.bind_some]
    rw [sites_of_read? hreadMore, Heading.name_ofName]
    exact ⟨_, _, rfl⟩

/-- A dangling end holds at most one site, which longer texts keep. -/
theorem sites_of_dangling {cs : List Char} (h : Dangling cs) :
    sites cs = [] ∨
      ∃ name, sites cs = [⟨name, none, cs⟩] ∧
        ∀ more, ∃ supertype rest, sites (cs ++ more) = ⟨name, supertype, cs ++ more⟩ :: rest := by
  obtain ⟨afterKeyword, atName, hkeyword, hblanks, rfl | ⟨name, tail, hname, htail, hawaits⟩⟩ := h
  · exact Or.inl (sites_of_awaits_name hkeyword hblanks)
  · exact Or.inr ⟨name, sites_of_awaitsSupertype hkeyword hblanks hname htail hawaits⟩

/-! ## Settled sites -/

/-- The same site in a longer text. -/
def Site.extend (more : List Char) (x : Site) : Site :=
  { x with text := x.text ++ more }

/-- The sites of a text are settled up to a dangling end. -/
theorem exists_settled_sites {cs : List Char} (hend : cs = [] ∨ EndsOutsideName cs) :
    ∃ settled dangling, dangling <:+ cs ∧ (dangling = [] ∨ Dangling dangling) ∧
      sites cs = settled ++ sites dangling ∧
      ∀ more, sites (cs ++ more) =
        settled.map (Site.extend more) ++ sites (dangling ++ more) := by
  induction cs using sites_induction with
  | nil => exact ⟨[], [], List.suffix_rfl, Or.inl rfl, rfl, fun more => rfl⟩
  | heading cs h hr ih =>
      -- A heading that may still go on is not settled, and nothing behind it is reached.
      by_cases hdangling : Dangling cs
      · exact ⟨[], cs, List.suffix_rfl, Or.inr hdangling, rfl, fun more => rfl⟩
      have hsuffix := Heading.suffix_rest_of_read? hr
      have hcs : EndsOutsideName cs := by
        apply hend.resolve_left
        rintro rfl
        cases hr
      obtain ⟨settled, dangling, hdang, hcase, hsites, hmore⟩ :=
        ih (hcs.eq_nil_or_of_suffix hsuffix)
      refine ⟨⟨h.name, h.supertype, cs⟩ :: settled, dangling, hdang.trans hsuffix, hcase, ?_, ?_⟩
      · rw [sites_of_read? hr, hsites, List.cons_append]
      · intro more
        have hread : Heading.read? (cs ++ more) = some (h.extend more) := by
          rw [Heading.read?_append hcs hdangling, hr, Option.map_some]
        rw [sites_of_read? hread, List.map_cons, List.cons_append, ← hmore]
        rfl
  | skip c cs hr ih =>
      by_cases hdangling : Dangling (c :: cs)
      · exact ⟨[], c :: cs, List.suffix_rfl, Or.inr hdangling, rfl, fun more => rfl⟩
      have hcs : EndsOutsideName (c :: cs) := hend.resolve_left (by simp)
      obtain ⟨settled, dangling, hdang, hcase, hsites, hmore⟩ :=
        ih (hcs.eq_nil_or_of_suffix (List.suffix_cons c cs))
      refine ⟨settled, dangling, hdang.trans (List.suffix_cons c cs), hcase, ?_, ?_⟩
      · rw [sites_cons_of_read? hr, hsites]
      · intro more
        have hread : Heading.read? (c :: (cs ++ more)) = none := by
          rw [← List.cons_append, Heading.read?_append hcs hdangling, hr, Option.map_none]
        rw [List.cons_append, sites_cons_of_read? hread, hmore]

/-- Behind a character that no heading goes on with, the search for declarations starts
afresh. -/
theorem sites_append_of_barrier {barrier : Char} (hname : isNameChar barrier = false)
    (hblank : isBlank barrier = false) (hcolon : barrier ≠ ':') (cs more : List Char) :
    sites (cs ++ barrier :: more) =
      (sites (cs ++ [barrier])).map (Site.extend more) ++ sites more := by
  have hend : EndsOutsideName (cs ++ [barrier]) := ⟨barrier, by simp, hname⟩
  obtain ⟨settled, dangling, hdang, hcase, hsites, hmore⟩ := exists_settled_sites (Or.inr hend)
  have hnil : dangling = [] := by
    apply hcase.resolve_right
    intro hdangling
    have hne : dangling ≠ [] := by
      rintro rfl
      obtain ⟨afterKeyword, -, hkeyword, -⟩ := hdangling
      cases hkeyword
    have hlast : barrier ∈ dangling := by
      obtain ⟨lead, hlead⟩ := hdang
      have hgetLast := congrArg List.getLast? hlead
      rw [List.getLast?_append_of_ne_nil lead hne, List.getLast?_concat] at hgetLast
      exact List.mem_of_getLast? hgetLast
    rcases hdangling.char_cases hlast with h | h | h
    · rw [hname] at h
      cases h
    · rw [hblank] at h
      cases h
    · exact hcolon h
  rw [hnil, sites_nil, List.append_nil] at hsites
  have happ := hmore more
  rwa [hnil, List.nil_append, ← hsites, List.append_assoc, List.singleton_append] at happ

/-- Behind a closing brace the search for declarations starts afresh. -/
theorem sites_append_of_brace (cs more : List Char) :
    sites (cs ++ '}' :: more) =
      (sites (cs ++ ['}'])).map (Site.extend more) ++ sites more :=
  sites_append_of_barrier (by decide) (by decide) (by decide) cs more

end ClassDiagram
