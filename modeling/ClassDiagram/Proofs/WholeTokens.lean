import ClassDiagram.Proofs.DeclarationSearch
import ClassDiagram.Proofs.NestedUsages
import ClassDiagram.Proofs.UsageGrammar

/-!
# Names as whole tokens

A name that stands in a text need not be a token of its own: it can be a part of a longer
identifier.  The patterns for the creation of an instance and for a mention look at both
sides of the name and pass over such places.  The pattern for the access to a member looks
only at what follows, so the end of a longer identifier can give a usage edge.  A declared
name is always a whole identifier, but the mention of a class also stops at letters that no
identifier contains, and so can fail to find the name that was declared.

Main results:

- Theorem `ClassName.isMentionedIn_of_isInstantiatedIn`: what is created is mentioned.
- Theorem `usage_rests_on_token`: a usage edge rests on a whole token, or else on the
  access to a member at the end of a longer identifier.
- Theorem `declared_name_is_token`: a declared name is a whole token, and it is mentioned
  where it stands unless a word character follows.
-/

namespace ClassDiagram

open Text

/-! ## Whole tokens -/

section Places

variable {name : ClassName} {body : List Char}

/-- No name character stands on either side: the name is an identifier of its own. -/
def Occurrence.IsWhole (o : Occurrence name body) : Prop :=
  FreshBehind o.before ∧ Stops isNameChar o.behind

/-- The name is the end of a longer identifier. -/
def Occurrence.IsTail (o : Occurrence name body) : Prop :=
  ¬ FreshBehind o.before ∧ Stops isNameChar o.behind

theorem stops_nameChar_of_wordChar {cs : List Char} (h : Stops isWordChar cs) :
    Stops isNameChar cs := by
  intro c hc
  rw [← Bool.not_eq_true]
  intro hname
  have hword := isWordChar_of_isNameChar hname
  rw [h c hc] at hword
  cases hword

/-- White space separates a name from whatever stands before it. -/
theorem freshBehind_append_gap {gap : List Char} (hgap : Gap gap) (lead : List Char) :
    FreshBehind (lead ++ gap) := by
  refine Or.inr ((endsOutsideName_append hgap.ne_nil).mpr ?_)
  refine ⟨gap.getLast hgap.ne_nil, List.getLast?_eq_some_getLast hgap.ne_nil, ?_⟩
  exact isNameChar_of_isBlank (hgap.blank _ (List.getLast_mem hgap.ne_nil))

theorem EndsWithNew.freshBehind {cs : List Char} (h : EndsWithNew cs) : FreshBehind cs := by
  obtain ⟨lead, gap, rfl, hgap⟩ := h
  rw [← List.append_assoc]
  exact freshBehind_append_gap hgap _

/-- A mark of no word ends a token, also behind white space. -/
theorem stops_wordChar_of_blanks {blanks : List Char} (hblanks : Blanks blanks) {mark : Char}
    (hmark : isWordChar mark = false) (rest : List Char) :
    Stops isWordChar (blanks ++ mark :: rest) := by
  intro c hc
  cases blanks with
  | nil =>
      cases hc
      exact hmark
  | cons b blanks =>
      cases hc
      exact isWordChar_of_isBlank (hblanks _ List.mem_cons_self)

theorem OpensCall.stops {cs : List Char} (h : OpensCall cs) : Stops isWordChar cs := by
  obtain ⟨blanks, rest, rfl, hblanks⟩ := h
  exact stops_wordChar_of_blanks hblanks (isWordChar_eq_isNameChar (by decide)) rest

theorem OpensMember.stops {cs : List Char} (h : OpensMember cs) : Stops isWordChar cs := by
  obtain ⟨blanks, blanks', c, rest, rfl, hblanks, -, -⟩ := h
  exact stops_wordChar_of_blanks hblanks (isWordChar_eq_isNameChar (by decide)) _

/-! ## Detectors and tokens -/

namespace ClassName

variable {target : ClassName}

/-- What is created is mentioned. -/
theorem isMentionedIn_of_isInstantiatedIn (h : target.isInstantiatedIn body = true) :
    target.isMentionedIn body = true := by
  obtain ⟨o, hnew, hcall⟩ := isInstantiatedIn_iff.mp h
  exact isMentionedIn_iff.mpr ⟨o, hnew.freshBehind, hcall.stops⟩

/-- What is mentioned stands in the body as a whole token. -/
theorem exists_isWhole_of_isMentionedIn (h : target.isMentionedIn body = true) :
    ∃ o : Occurrence target body, o.IsWhole := by
  obtain ⟨o, hfresh, hstops⟩ := isMentionedIn_iff.mp h
  exact ⟨o, hfresh, stops_nameChar_of_wordChar hstops⟩

/-- In a text whose word characters are all of names, a whole token is a mention. -/
theorem isMentionedIn_of_isWhole (hbody : ∀ c ∈ body, isWordChar c = isNameChar c)
    {o : Occurrence target body} (h : o.IsWhole) : target.isMentionedIn body = true := by
  refine isMentionedIn_iff.mpr ⟨o, h.1, ?_⟩
  intro c hc
  have hmem : c ∈ body := by
    rw [o.body_eq]
    exact List.mem_append_right _ (List.mem_append_right _ (List.mem_of_head? hc))
  rw [hbody c hmem, h.2 c hc]

/-- A body that uses a class shows its name as a whole token, or else accesses a member
through the end of a longer identifier; the other patterns are not found then. -/
theorem exists_isWhole_or_isTail (h : target.isUsedIn body = true) :
    (∃ o : Occurrence target body, o.IsWhole) ∨
      target.isInstantiatedIn body = false ∧ target.isMentionedIn body = false ∧
        ∃ o : Occurrence target body, o.IsTail ∧ OpensMember o.behind := by
  by_cases hwhole : ∃ o : Occurrence target body, o.IsWhole
  · exact Or.inl hwhole
  have hmentioned : ¬ target.isMentionedIn body = true :=
    fun hmentioned => hwhole (exists_isWhole_of_isMentionedIn hmentioned)
  have hcreated : ¬ target.isInstantiatedIn body = true :=
    fun hcreated => hmentioned (isMentionedIn_of_isInstantiatedIn hcreated)
  have haccessed : target.isAccessedIn body = true :=
    ((isUsedIn_iff.mp h).resolve_left hcreated).resolve_right hmentioned
  obtain ⟨o, hmember⟩ := isAccessedIn_iff.mp haccessed
  have hstops := stops_nameChar_of_wordChar hmember.stops
  have htail : o.IsTail := ⟨fun hfresh => hwhole ⟨o, hfresh, hstops⟩, hstops⟩
  exact Or.inr ⟨Bool.eq_false_iff.mpr hcreated, Bool.eq_false_iff.mpr hmentioned, o, htail,
    hmember⟩

end ClassName

end Places

/-! ## Usage edges -/

/-- A usage edge rests on a whole token in the recorded body of the user.  Where the body
has none, neither the creation of an instance nor a mention is found, and the edge rests on
the access to a member through the end of a longer identifier. -/
theorem usage_rests_on_token {buffer : List Char} {source target : ClassName}
    (huse : .usage source target ∈ (scan buffer).relationships.entries) :
    ∃ body, (scan buffer).body? source = some body ∧
      ((∃ o : Occurrence target body, o.IsWhole) ∨
        target.isInstantiatedIn body = false ∧ target.isMentionedIn body = false ∧
          ∃ o : Occurrence target body, o.IsTail ∧ OpensMember o.behind) := by
  obtain ⟨body, hbody, -, -, hused⟩ := usage_mem_entries_iff.mp huse
  exact ⟨body, hbody, ClassName.exists_isWhole_or_isTail hused⟩

/-- A class that accesses a member of a class with a longer name. -/
def shopText : List Char := "class Shop { MyConfig.Load(); } class Config { }".toList

/-- The class that accesses the member. -/
def shopClass : ClassName := ⟨"Shop".toList, by decide⟩

/-- The class whose name is the end of the longer one. -/
def shopConfig : ClassName := ⟨"Config".toList, by decide⟩

theorem usage_mem_entries_shop :
    .usage shopClass shopConfig ∈ (scan shopText).relationships.entries := by
  decide +kernel

/-- The edge of the shop. -/
theorem usage_rests_on_token_shop :
    .usage shopClass shopConfig ∈ (scan shopText).relationships.entries ∧
      ∃ body, (scan shopText).body? shopClass = some body ∧
        ((∃ o : Occurrence shopConfig body, o.IsWhole) ∨
          shopConfig.isInstantiatedIn body = false ∧ shopConfig.isMentionedIn body = false ∧
            ∃ o : Occurrence shopConfig body, o.IsTail ∧ OpensMember o.behind) := by
  exact ⟨usage_mem_entries_shop, usage_rests_on_token usage_mem_entries_shop⟩

/-- The shop has a usage edge without any whole token that it could rest on. -/
theorem usage_without_token_shop :
    .usage shopClass shopConfig ∈ (scan shopText).relationships.entries ∧
      (scan shopText).body? shopClass = some " MyConfig.Load(); ".toList ∧
      ∀ o : Occurrence shopConfig " MyConfig.Load(); ".toList, ¬ o.IsWhole := by
  refine ⟨usage_mem_entries_shop, by decide +kernel, ?_⟩
  intro o hwhole
  have hascii : " MyConfig.Load(); ".toList.all (·.toNat < 0x80) = true := by decide
  have hchars : ∀ c ∈ " MyConfig.Load(); ".toList, isWordChar c = isNameChar c := by
    intro c hc
    exact isWordChar_eq_isNameChar (of_decide_eq_true (List.all_eq_true.mp hascii c hc))
  have hmentioned := ClassName.isMentionedIn_of_isWhole hchars hwhole
  have hnot : shopConfig.isMentionedIn " MyConfig.Load(); ".toList = false := by decide
  rw [hnot] at hmentioned
  cases hmentioned

/-! ## Declared names -/

/-- A declared name stands in the text as a whole token, where its declaration starts.  The
class is mentioned in the text, unless a word character that no name contains stands right
behind the name. -/
theorem declared_name_is_token {buffer : List Char} {d : Declaration}
    (hd : d ∈ declarations buffer) :
    ∃ o : Occurrence d.name buffer,
      (∃ lead gap, o.before = lead ++ (classKeyword ++ gap) ∧ byteLength lead = d.start ∧
        Gap gap) ∧
      o.IsWhole ∧
      (d.name.isMentionedIn buffer = true ∨
        ∃ c ∈ o.behind.head?, isWordChar c = true ∧ isNameChar c = false) := by
  obtain ⟨lead, w, rest, hwritten⟩ := exists_isWritten_of_mem hd
  obtain rfl := hwritten.eq
  have hfits := hwritten.fits
  have hbuffer : buffer =
      (lead ++ (classKeyword ++ w.gap)) ++ (w.name.letters ++ w.behindName rest) := by
    rw [hwritten.buffer_eq]
    simp [Spelling.text, Spelling.behindName]
  have hfresh : FreshBehind (lead ++ (classKeyword ++ w.gap)) := by
    rw [← List.append_assoc]
    exact freshBehind_append_gap hfits.gap _
  let o : Occurrence w.name buffer := ⟨_, _, hbuffer⟩
  refine ⟨o, ⟨lead, w.gap, rfl, rfl, hfits.gap⟩, ⟨hfresh, hfits.name_ends⟩, ?_⟩
  by_cases hstops : Stops isWordChar o.behind
  · exact Or.inl (ClassName.isMentionedIn_iff.mpr ⟨o, hfresh, hstops⟩)
  · simp only [Stops, not_forall, Bool.not_eq_false] at hstops
    obtain ⟨c, hc, hword⟩ := hstops
    exact Or.inr ⟨c, hc, hword, hfits.name_ends c hc⟩

/-- A class with a name that goes on with a letter of no identifier. -/
def cafeText : List Char := "class Café { }".toList

/-- The class that is declared: the part of its name that is an identifier. -/
def cafeClass : ClassName := ⟨"Caf".toList, by decide⟩

theorem mem_declarations_cafe : (⟨cafeClass, none, 0⟩ : Declaration) ∈ declarations cafeText := by
  decide +kernel

/-- The name that the café declares stands there as a whole token. -/
theorem declared_name_is_token_cafe :
    (⟨cafeClass, none, 0⟩ : Declaration) ∈ declarations cafeText ∧
      ∃ o : Occurrence cafeClass cafeText,
        (∃ lead gap, o.before = lead ++ (classKeyword ++ gap) ∧ byteLength lead = 0 ∧ Gap gap) ∧
        o.IsWhole ∧
        (cafeClass.isMentionedIn cafeText = true ∨
          ∃ c ∈ o.behind.head?, isWordChar c = true ∧ isNameChar c = false) := by
  exact ⟨mem_declarations_cafe, declared_name_is_token mem_declarations_cafe⟩

/-- The class that the café declares is not mentioned in it. -/
theorem declared_name_unmentioned_cafe :
    (⟨cafeClass, none, 0⟩ : Declaration) ∈ declarations cafeText ∧
      cafeClass.isMentionedIn cafeText = false := by
  exact ⟨mem_declarations_cafe, by decide⟩

end ClassDiagram
