import ClassDiagram.Proofs.BodyRange
import ClassDiagram.Proofs.BytePosition
import ClassDiagram.Proofs.DeclarationGrammar
import ClassDiagram.Proofs.GraphIntegrity

/-!
# Where declarations are found

The search for declarations goes on behind the last one it found, so a keyword inside a
declaration is not looked at.  It can only be the end of one of the two names that the
declaration holds: a name that ends in the keyword, with white space behind it.  Every
other keyword before the start of a name begins a declaration of its own.

Main results:

- Theorem `pairwise_rest_sites`: each site lies in what every site before it leaves.
- Theorem `Spelling.exists_token_of_inside`: a keyword inside a declaration is the end of
  a name.
- Theorem `declarations_sound_and_complete`: the declarations found are written as the
  grammar says, one behind the other, and no other is lost.
-/

namespace ClassDiagram

open Text

/-! ## Names in declarations -/

/-- A name that is written in a text, and where it stands. -/
structure Token where
  /-- The name. -/
  name : ClassName
  /-- Where its letters stand. -/
  range : ByteRange

/-- The names that are written in a declaration that stands behind the given text. -/
def Spelling.tokens (w : Spelling) (before : List Char) : List Token :=
  let atName := before ++ (classKeyword ++ w.gap)
  ⟨w.name, .after atName w.name.letters⟩ ::
    w.clause.toList.map fun clause =>
      let atSupertype := atName ++ (w.name.letters ++ (w.blanks ++ ':' :: clause.blanks))
      ⟨clause.supertype, .after atSupertype clause.supertype.letters⟩

/-- The declaration stands in the text between two parts of it, written in the given
way. -/
structure Declaration.IsWritten (d : Declaration) (buffer before : List Char) (w : Spelling)
    (rest : List Char) : Prop where
  buffer_eq : buffer = before ++ (w.text ++ rest)
  eq : d = ⟨w.name, w.supertype, byteLength before⟩
  fits : w.Fits rest

/-- The declaration ends at the position or before it, in whatever way it is written. -/
def Declaration.EndsBy (d : Declaration) (buffer : List Char) (position : Nat) : Prop :=
  ∀ before w rest, d.IsWritten buffer before w rest → byteLength (before ++ w.text) ≤ position

/-! ## Keywords inside declarations -/

theorem OpensDeclaration.exists_cons {cs : List Char} (h : OpensDeclaration cs) :
    ∃ rest, cs = 'c' :: rest := by
  obtain ⟨gap, c, rest, rfl, -, -⟩ := h
  exact ⟨_, rfl⟩

/-- Two ways to cut a text: the second cut is behind the first part, or inside it. -/
theorem exists_of_append_eq {xs ys lead text : List Char} (h : xs ++ ys = lead ++ text) :
    (∃ lead', lead = xs ++ lead' ∧ ys = lead' ++ text) ∨
      ∃ c mid, xs = lead ++ c :: mid ∧ text = c :: (mid ++ ys) := by
  rcases List.append_eq_append_iff.mp h with ⟨lead', hlead, hys⟩ | ⟨mid, hxs, htext⟩
  · exact Or.inl ⟨lead', hlead, hys⟩
  · cases mid with
    | nil => exact Or.inl ⟨[], by simpa using hxs.symm, by simpa using htext.symm⟩
    | cons c mid => exact Or.inr ⟨c, mid, hxs, htext⟩

/-- A declaration that begins in a run of characters without the first letter of the
keyword begins behind it. -/
theorem exists_of_append_eq_of_not_mem {xs ys lead text : List Char} (h : xs ++ ys = lead ++ text)
    (hopens : OpensDeclaration text) (hxs : 'c' ∉ xs) :
    ∃ lead', lead = xs ++ lead' ∧ ys = lead' ++ text := by
  rcases exists_of_append_eq h with hbehind | ⟨c, mid, rfl, rfl⟩
  · exact hbehind
  · obtain ⟨rest, heq⟩ := hopens.exists_cons
    obtain ⟨rfl, -⟩ := List.cons.inj heq
    exact absurd (by simp) hxs

/-- No declaration begins inside the keyword of another one. -/
theorem exists_of_keyword_append_eq {ys lead text : List Char}
    (h : classKeyword ++ ys = lead ++ text) (hopens : OpensDeclaration text) (hlead : lead ≠ []) :
    ∃ lead', lead = classKeyword ++ lead' ∧ ys = lead' ++ text := by
  obtain ⟨c, lead, rfl⟩ := List.exists_cons_of_ne_nil hlead
  obtain ⟨rfl, htail⟩ := List.cons.inj h
  have htail : ['l', 'a', 's', 's'] ++ ys = lead ++ text := htail
  obtain ⟨lead', rfl, hys⟩ := exists_of_append_eq_of_not_mem htail hopens (by decide)
  exact ⟨lead', rfl, hys⟩

/-- The keyword of a declaration stops where a name would. -/
theorem OpensDeclaration.takeWhile_eq {text : List Char} (h : OpensDeclaration text) :
    text.takeWhile isNameChar = classKeyword := by
  obtain ⟨gap, c, rest, rfl, hgap, -⟩ := h
  obtain ⟨b, gap', rfl, hb⟩ := hgap.exists_cons
  apply takeWhile_of_stops fun _ hc => Heading.isNameChar_of_mem_classKeyword hc
  intro d hd
  cases hd
  exact isNameChar_of_isBlank hb

/-- A declaration that begins in a name begins behind it or at its last letters, which
are the keyword. -/
theorem exists_of_letters_append_eq {n : ClassName} {ys lead text : List Char}
    (h : n.letters ++ ys = lead ++ text) (hopens : OpensDeclaration text)
    (hys : Stops isNameChar ys) :
    (∃ lead', lead = n.letters ++ lead' ∧ ys = lead' ++ text) ∨
      n.letters = lead ++ classKeyword := by
  rcases exists_of_append_eq h with hbehind | ⟨c, mid, hletters, rfl⟩
  · exact Or.inl hbehind
  · have hmid : ∀ d ∈ c :: mid, isNameChar d = true := by
      intro d hd
      apply ClassName.isNameChar_of_mem (n := n)
      rw [hletters]
      exact List.mem_append_right lead hd
    have hrun := takeWhile_of_stops hmid hys
    rw [List.cons_append, hopens.takeWhile_eq] at hrun
    rw [hletters, hrun]
    exact Or.inr rfl

/-- The keyword is the end of the name, with the text behind the given one right behind
its start. -/
def Token.EndsInKeywordAt (token : Token) (before : List Char) : Prop :=
  classKeyword <:+ token.name.letters ∧ token.range.first ≤ byteLength before ∧
    token.range.behind = byteLength before + byteLength classKeyword

theorem Token.endsInKeywordAt_of_letters {n : ClassName} {lead : List Char}
    (h : n.letters = lead ++ classKeyword) (before : List Char) :
    Token.EndsInKeywordAt ⟨n, .after before n.letters⟩ (before ++ lead) := by
  refine ⟨⟨lead, h.symm⟩, ?_, ?_⟩
  · simp only [ByteRange.after, byteLength_append]
    omega
  · simp only [ByteRange.after, h, byteLength_append]
    omega

/-- A declaration that begins behind a name but before the end of the supertype begins at
the last letters of the supertype. -/
theorem Spelling.exists_clause_of_inside {w : Spelling} {rest lead text : List Char}
    (h : w.Fits rest) (heq : w.clauseText ++ rest = lead ++ text) (hopens : OpensDeclaration text)
    (hinside : byteLength lead < byteLength w.clauseText) :
    ∃ clause ∈ w.clause, ∃ lead', lead = ':' :: clause.blanks ++ lead' ∧
      clause.supertype.letters = lead' ++ classKeyword := by
  cases hclause : w.clause with
  | none =>
      simp only [clauseText, hclause, Option.elim_none, byteLength_nil] at hinside
      omega
  | some clause =>
      simp only [clauseText, hclause, Option.elim_some, SupertypeClause.text,
        ← List.cons_append] at heq hinside
      have hcolon : 'c' ∉ ':' :: clause.blanks := by
        rw [List.mem_cons, not_or]
        exact ⟨by decide, not_mem_of_blank (h.clause_blanks clause hclause)⟩
      rw [List.append_assoc] at heq
      obtain ⟨lead', rfl, heq'⟩ := exists_of_append_eq_of_not_mem heq hopens hcolon
      refine ⟨clause, rfl, lead', rfl, ?_⟩
      rcases exists_of_letters_append_eq heq' hopens (h.clause_ends clause hclause)
        with ⟨past, rfl, -⟩ | hsupertype
      · simp only [byteLength_append] at hinside
        omega
      · exact hsupertype

/-- A keyword inside a declaration, with white space and the start of a name behind it,
is the end of one of the names of the declaration. -/
theorem Spelling.exists_token_of_inside {w : Spelling} {rest lead text : List Char}
    (h : w.Fits rest) (heq : w.text ++ rest = lead ++ text) (hopens : OpensDeclaration text)
    (hlead : lead ≠ []) (hinside : byteLength lead < byteLength w.text) (before : List Char) :
    ∃ token ∈ w.tokens before, token.EndsInKeywordAt (before ++ lead) := by
  simp only [Spelling.text, List.append_assoc] at heq hinside
  -- The parts of the declaration are passed one after the other; only its names hold the
  -- first letter of the keyword.
  obtain ⟨lead₁, rfl, heq₁⟩ := exists_of_keyword_append_eq heq hopens hlead
  obtain ⟨lead₂, rfl, heq₂⟩ :=
    exists_of_append_eq_of_not_mem heq₁ hopens (not_mem_of_blank h.gap.blank)
  rcases exists_of_letters_append_eq heq₂ hopens h.name_ends with ⟨lead₃, rfl, heq₃⟩ | hname
  · obtain ⟨lead₄, rfl, heq₄⟩ :=
      exists_of_append_eq_of_not_mem heq₃ hopens (not_mem_of_blank h.blanks)
    have hclauseInside : byteLength lead₄ < byteLength w.clauseText := by
      simp only [byteLength_append] at hinside
      omega
    obtain ⟨clause, hclause, lead₅, rfl, hsupertype⟩ :=
      Spelling.exists_clause_of_inside h heq₄ hopens hclauseInside
    refine ⟨_, List.mem_cons_of_mem _ (List.mem_map_of_mem (Option.mem_toList.mpr hclause)), ?_⟩
    have hend := Token.endsInKeywordAt_of_letters hsupertype (before ++
      (classKeyword ++ w.gap) ++ (w.name.letters ++ (w.blanks ++ ':' :: clause.blanks)))
    simpa only [List.append_assoc, List.cons_append] using hend
  · refine ⟨_, List.mem_cons_self, ?_⟩
    have hend := Token.endsInKeywordAt_of_letters hname (before ++ (classKeyword ++ w.gap))
    rwa [List.append_assoc, List.append_assoc] at hend

/-! ## The search -/

/-- The heading of a site is read at its front. -/
theorem exists_heading_of_mem_sites {cs : List Char} {x : Site} (hx : x ∈ sites cs) :
    ∃ h, Heading.read? x.text = some h ∧ h.name = x.name ∧ h.supertype = x.supertype := by
  induction cs using sites_induction with
  | nil => simp at hx
  | heading cs h hr ih =>
      rw [sites_of_read? hr, List.mem_cons] at hx
      rcases hx with rfl | hx
      · exact ⟨h, hr, rfl, rfl⟩
      · exact ih hx
  | skip c cs hr ih =>
      rw [sites_cons_of_read? hr] at hx
      exact ih hx

/-- Each site lies in what every site before it leaves. -/
theorem pairwise_rest_sites (cs : List Char) :
    (sites cs).Pairwise fun x y => ∀ h, Heading.read? x.text = some h → y.text <:+ h.rest := by
  induction cs using sites_induction with
  | nil => simp
  | heading cs h hr ih =>
      rw [sites_of_read? hr, List.pairwise_cons]
      refine ⟨?_, ih⟩
      intro y hy h' hr'
      rw [hr, Option.some.injEq] at hr'
      exact hr' ▸ suffix_of_mem_sites hy
  | skip c cs hr ih => rwa [sites_cons_of_read? hr]

/-- Where a declaration opens there is a site, or it is inside the heading of one. -/
theorem exists_site_of_opens {cs lead text : List Char} (heq : cs = lead ++ text)
    (hopens : OpensDeclaration text) :
    (∃ x ∈ sites cs, x.text = text) ∨
      ∃ x ∈ sites cs, ∃ lead' h, x.text = lead' ++ text ∧ lead' ≠ [] ∧
        Heading.read? x.text = some h ∧ byteLength h.rest < byteLength text := by
  induction cs using sites_induction generalizing lead with
  | nil =>
      obtain ⟨-, rfl⟩ := List.append_eq_nil_iff.mp heq.symm
      obtain ⟨rest, hrest⟩ := hopens.exists_cons
      cases hrest
  | heading cs h hr ih =>
      rw [sites_of_read? hr]
      by_cases hlead : lead = []
      · exact Or.inl ⟨_, List.mem_cons_self, by rw [heq, hlead, List.nil_append]⟩
      by_cases hinside : byteLength h.rest < byteLength text
      · exact Or.inr ⟨_, List.mem_cons_self, lead, h, heq, hlead, hr, hinside⟩
      obtain ⟨front, hfront⟩ := Heading.suffix_rest_of_read? hr
      have hcut : front ++ h.rest = lead ++ text := hfront.trans heq
      obtain ⟨gap, -, hrest⟩ : ∃ gap, lead = front ++ gap ∧ h.rest = gap ++ text := by
        apply exists_append_of_byteLength_le hcut
        have hlength := congrArg byteLength hcut
        rw [byteLength_append, byteLength_append] at hlength
        omega
      rcases ih hrest with ⟨x, hx, htext⟩ | ⟨x, hx, hin⟩
      · exact Or.inl ⟨x, List.mem_cons_of_mem _ hx, htext⟩
      · exact Or.inr ⟨x, List.mem_cons_of_mem _ hx, hin⟩
  | skip c cs hr ih =>
      rw [sites_cons_of_read? hr]
      cases lead with
      | nil =>
          rw [List.nil_append] at heq
          rw [← heq, ← Heading.isSome_read?_iff, hr] at hopens
          cases hopens
      | cons d lead => exact ih (List.cons.inj heq).2

/-! ## Declarations by position -/

/-- A declaration is written at the site where it is found. -/
theorem Site.exists_isWritten {buffer : List Char} {x : Site} (hx : x ∈ sites buffer) :
    ∃ before w h, Heading.read? x.text = some h ∧ buffer = before ++ x.text ∧
      (x.declarationIn buffer).IsWritten buffer before w h.rest := by
  obtain ⟨before, rfl⟩ := suffix_of_mem_sites hx
  obtain ⟨h, hread, hname, hsupertype⟩ := exists_heading_of_mem_sites hx
  obtain ⟨w, htext, hwname, hwsupertype, hfits⟩ := Heading.exists_fits_of_read? hread
  refine ⟨before, w, h, hread, rfl, by rw [← htext], ?_, hfits⟩
  rw [hwname, hwsupertype, hname, hsupertype, ← start_declarationIn x before]
  rfl

/-- Where a declaration is written, its heading is read. -/
theorem Site.read?_of_isWritten {buffer before rest : List Char} {x : Site} {w : Spelling}
    (hx : x ∈ sites buffer) (h : (x.declarationIn buffer).IsWritten buffer before w rest) :
    Heading.read? x.text = some ⟨w.name, w.supertype, rest⟩ := by
  obtain ⟨before', w', h', -, hbuffer, hwritten⟩ := Site.exists_isWritten hx
  have hstart := congrArg Declaration.start (hwritten.eq.symm.trans h.eq)
  have htext := eq_of_append_eq_of_byteLength (hbuffer.symm.trans h.buffer_eq) hstart
  rw [htext]
  exact Heading.read?_of_fits h.fits

theorem exists_isWritten_of_mem {buffer : List Char} {d : Declaration}
    (hd : d ∈ declarations buffer) : ∃ before w rest, d.IsWritten buffer before w rest := by
  rw [declarations_eq_map_sites] at hd
  obtain ⟨x, hx, rfl⟩ := List.mem_map.mp hd
  obtain ⟨before, w, h, -, -, hwritten⟩ := Site.exists_isWritten hx
  exact ⟨before, w, h.rest, hwritten⟩

/-- Every declaration ends before the next one starts. -/
theorem pairwise_endsBy_start (buffer : List Char) :
    (declarations buffer).Pairwise fun d e => d.EndsBy buffer e.start := by
  rw [declarations_eq_map_sites, List.pairwise_map]
  refine List.Pairwise.imp_of_mem ?_ (pairwise_rest_sites buffer)
  intro x y hx hy hrest before w rest hwritten
  obtain ⟨lead, hlead⟩ := hrest _ (Site.read?_of_isWritten hx hwritten)
  have hlead : lead ++ y.text = rest := hlead
  have hbuffer : buffer = before ++ w.text ++ lead ++ y.text := by
    rw [hwritten.buffer_eq, ← hlead]
    simp
  rw [hbuffer, Site.start_declarationIn, byteLength_append _ lead]
  omega

theorem pairwise_start_lt (buffer : List Char) :
    (declarations buffer).Pairwise fun d e => d.start < e.start := by
  refine List.Pairwise.imp_of_mem ?_ (pairwise_endsBy_start buffer)
  intro d e hd _ hbehind
  obtain ⟨before, w, rest, hwritten⟩ := exists_isWritten_of_mem hd
  have hle := hbehind before w rest hwritten
  have hkeyword : byteLength classKeyword = 5 := by decide
  rw [byteLength_append, Spelling.text, byteLength_append, hkeyword] at hle
  rw [hwritten.eq]
  simp only
  omega

/-- A declaration ends before every one that starts behind its start. -/
theorem Declaration.endsBy_of_start_lt {buffer : List Char} {d e : Declaration}
    (hd : d ∈ declarations buffer) (he : e ∈ declarations buffer) (hlt : d.start < e.start) :
    d.EndsBy buffer e.start := by
  obtain ⟨i, hi, rfl⟩ := List.getElem_of_mem hd
  obtain ⟨j, hj, rfl⟩ := List.getElem_of_mem he
  rcases Nat.lt_trichotomy i j with hij | rfl | hji
  · exact List.pairwise_iff_getElem.mp (pairwise_endsBy_start buffer) i j hi hj hij
  · exact absurd hlt (Nat.lt_irrefl _)
  · have hback := List.pairwise_iff_getElem.mp (pairwise_start_lt buffer) j i hj hi hji
    exact absurd hlt (Nat.lt_asymm hback)

/-- Where a declaration opens one starts, or it is inside one. -/
theorem exists_declaration_of_opens {buffer before text : List Char}
    (heq : buffer = before ++ text) (hopens : OpensDeclaration text) :
    (∃ d ∈ declarations buffer, d.start = byteLength before) ∨
      ∃ d ∈ declarations buffer, ∃ before' lead w rest, d.IsWritten buffer before' w rest ∧
        before = before' ++ lead ∧ lead ≠ [] ∧ byteLength lead < byteLength w.text := by
  rw [declarations_eq_map_sites]
  rcases exists_site_of_opens heq hopens with ⟨x, hx, rfl⟩ | ⟨x, hx, lead, h, htext, hlead, hr, hlt⟩
  · refine Or.inl ⟨_, List.mem_map_of_mem hx, ?_⟩
    rw [heq, Site.start_declarationIn]
  · obtain ⟨before', w, h', hr', hbuffer, hwritten⟩ := Site.exists_isWritten hx
    obtain rfl := Option.some.inj (hr.symm.trans hr')
    have hcut : w.text ++ h.rest = lead ++ text := by
      rw [← htext]
      exact List.append_cancel_left (hwritten.buffer_eq.symm.trans hbuffer)
    have hlength := congrArg byteLength hcut
    rw [byteLength_append, byteLength_append] at hlength
    refine Or.inr ⟨_, List.mem_map_of_mem hx, before', lead, w, h.rest, hwritten, ?_, hlead, ?_⟩
    · rw [hbuffer, htext, ← List.append_assoc] at heq
      exact (List.append_cancel_right heq).symm
    · omega

/-! ## Soundness and completeness -/

/-- The declarations that are found start one behind the end of the other.  Each is
written in the text as the grammar says, with a proper name.  Where a declaration opens
one is found, or the keyword is the end of a name in the nearest declaration before. -/
theorem declarations_sound_and_complete (buffer : List Char) :
    ((declarations buffer).Pairwise fun d e => d.start < e.start ∧ d.EndsBy buffer e.start) ∧
    (∀ d ∈ declarations buffer, ClassName.ofString? d.name.toString = some d.name ∧
      ∃ before w rest, d.IsWritten buffer before w rest) ∧
    ∀ before text, buffer = before ++ text → OpensDeclaration text →
      (∃ d ∈ declarations buffer, d.start = byteLength before) ∨
      ∃ d ∈ declarations buffer, d.start < byteLength before ∧
        (∀ e ∈ declarations buffer, e.start < byteLength before → e.start ≤ d.start) ∧
        ∃ before' w rest, d.IsWritten buffer before' w rest ∧
          ∃ token ∈ w.tokens before', token.EndsInKeywordAt before := by
  refine ⟨(pairwise_start_lt buffer).and (pairwise_endsBy_start buffer), ?_, ?_⟩
  · intro d hd
    exact ⟨d.name.ofString?_toString, exists_isWritten_of_mem hd⟩
  · intro before text heq hopens
    rcases exists_declaration_of_opens heq hopens with
      hstarts | ⟨d, hd, before', lead, w, rest, hwritten, rfl, hlead, hinside⟩
    · exact Or.inl hstarts
    refine Or.inr ⟨d, hd, ?_, ?_, before', w, rest, hwritten, ?_⟩
    · obtain ⟨c, lead, rfl⟩ := List.exists_cons_of_ne_nil hlead
      have hpos := c.utf8Size_pos
      rw [hwritten.eq, byteLength_append, byteLength_cons]
      simp only
      omega
    · intro e he hbefore
      by_contra hlt
      have hends := d.endsBy_of_start_lt hd he (Nat.lt_of_not_le hlt) before' w rest hwritten
      rw [byteLength_append] at hbefore hends
      omega
    · have hcut : w.text ++ rest = lead ++ text := by
        rw [hwritten.buffer_eq, List.append_assoc] at heq
        exact List.append_cancel_left heq
      exact Spelling.exists_token_of_inside hwritten.fits hcut hopens hlead hinside before'

/-- The keyword at the end of a supertype opens no declaration. -/
example : (declarations "class Pen : Subclass Pig".toList).map Declaration.start = [0] := by
  decide +kernel

end ClassDiagram
