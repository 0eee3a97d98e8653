import ClassDiagram.Drawing.Svg

/-!
# Escaped text

Replacing the characters of markup by entities, one kind after the other, is a
single pass that treats each character on its own: the ampersand comes first,
and no later replacement touches an entity that an earlier one wrote.  So the
escaped text holds no angle bracket, and decoding its entities in one pass gives
the text back.  Decoding has a result exactly if every ampersand begins an entity,
so that holds of an escaped text as well.

Main results:

- `Svg.escape_eq_flatMap`: escaping treats each character on its own.
- `Svg.unescape?_escape`: an escaped text is decoded to the text itself.
- `Svg.isSome_unescape?_iff`: the texts that can be decoded.
- `Svg.escape_reversible`: what escaping does to any text.
-/

namespace ClassDiagram.Svg

/-! ## One pass -/

/-- A character as it stands between tags. -/
def escapeChar (c : Char) : List Char :=
  if c = '&' then ampersandEntity
  else if c = '<' then lessEntity
  else if c = '>' then greaterEntity
  else [c]

theorem escapeChar_of_plain {c : Char} (amp : c ≠ '&') (less : c ≠ '<') (greater : c ≠ '>') :
    escapeChar c = [c] := by
  simp [escapeChar, amp, less, greater]

theorem escape_append (s t : List Char) : escape (s ++ t) = escape s ++ escape t := by
  simp [escape, replaceChar]

theorem escape_singleton (c : Char) : escape [c] = escapeChar c := by
  by_cases amp : c = '&'
  · subst amp
    decide
  by_cases less : c = '<'
  · subst less
    decide
  by_cases greater : c = '>'
  · subst greater
    decide
  simp [escape, replaceChar, escapeChar_of_plain, amp, less, greater]

/-- Escaping is a single pass that treats each character on its own. -/
theorem escape_eq_flatMap (text : List Char) : escape text = text.flatMap escapeChar := by
  induction text with
  | nil => rfl
  | cons c text ih =>
    calc escape (c :: text)
        = escape [c] ++ escape text := escape_append [c] text
      _ = escapeChar c ++ text.flatMap escapeChar := by rw [escape_singleton, ih]
      _ = (c :: text).flatMap escapeChar := List.flatMap_cons.symm

/-- No angle bracket is left between tags. -/
theorem ne_bracket_of_mem_escape {text : List Char} {c : Char} (h : c ∈ escape text) :
    c ≠ '<' ∧ c ≠ '>' := by
  rw [escape_eq_flatMap, List.mem_flatMap] at h
  obtain ⟨d, -, h⟩ := h
  unfold escapeChar at h
  split at h
  · exact (by simp [ampersandEntity] : ∀ e ∈ ampersandEntity, e ≠ '<' ∧ e ≠ '>') c h
  split at h
  · exact (by simp [lessEntity] : ∀ e ∈ lessEntity, e ≠ '<' ∧ e ≠ '>') c h
  split at h
  · exact (by simp [greaterEntity] : ∀ e ∈ greaterEntity, e ≠ '<' ∧ e ≠ '>') c h
  · obtain rfl : c = d := List.mem_singleton.1 h
    exact ⟨‹_›, ‹_›⟩

/-! ## Decoding -/

/-- The text that a text between tags stands for, its entities decoded in one
pass.  An ampersand that begins none of the three entities has no meaning. -/
def unescape? : List Char → Option (List Char)
  | [] => some []
  | '&' :: 'a' :: 'm' :: 'p' :: ';' :: rest => (unescape? rest).map ('&' :: ·)
  | '&' :: 'l' :: 't' :: ';' :: rest => (unescape? rest).map ('<' :: ·)
  | '&' :: 'g' :: 't' :: ';' :: rest => (unescape? rest).map ('>' :: ·)
  | c :: rest => if c = '&' then none else (unescape? rest).map (c :: ·)

theorem unescape?_cons {c : Char} (h : c ≠ '&') (rest : List Char) :
    unescape? (c :: rest) = (unescape? rest).map (c :: ·) := by
  rw [unescape?.eq_def]
  split <;> simp_all

theorem unescape?_escapeChar_append (c : Char) (rest : List Char) :
    unescape? (escapeChar c ++ rest) = (unescape? rest).map (c :: ·) := by
  by_cases amp : c = '&'
  · subst amp
    rfl
  by_cases less : c = '<'
  · subst less
    rfl
  by_cases greater : c = '>'
  · subst greater
    rfl
  rw [escapeChar_of_plain amp less greater]
  exact unescape?_cons amp rest

/-- Decoding an escaped text gives the text. -/
theorem unescape?_escape (text : List Char) : unescape? (escape text) = some text := by
  rw [escape_eq_flatMap]
  induction text with
  | nil => rfl
  | cons c text ih => rw [List.flatMap_cons, unescape?_escapeChar_append, ih, Option.map_some]

/-! ## Ampersands -/

/-- The entities that stand for characters of markup. -/
def entities : List (List Char) := [ampersandEntity, lessEntity, greaterEntity]

/-- Every ampersand of the text begins an entity. -/
def EntitiesOnly (text : List Char) : Prop :=
  ∀ rest, '&' :: rest <:+ text → ∃ entity ∈ entities, entity <+: '&' :: rest

/-- The only ampersand of an entity is at its front. -/
theorem suffix_entity_append {entity text rest : List Char} (hentity : entity ∈ entities)
    (hrest : '&' :: rest <:+ entity ++ text) :
    '&' :: rest = entity ++ text ∨ '&' :: rest <:+ text := by
  simp only [entities, List.mem_cons, List.not_mem_nil, or_false] at hentity
  rcases hentity with rfl | rfl | rfl
  · simpa [ampersandEntity, List.suffix_cons_iff] using hrest
  · simpa [lessEntity, List.suffix_cons_iff] using hrest
  · simpa [greaterEntity, List.suffix_cons_iff] using hrest

theorem entitiesOnly_entity_append {entity text : List Char} (hentity : entity ∈ entities) :
    EntitiesOnly (entity ++ text) ↔ EntitiesOnly text := by
  constructor
  · intro h rest hrest
    exact h rest (hrest.trans (List.suffix_append entity text))
  · intro h rest hrest
    rcases suffix_entity_append hentity hrest with heq | hrest
    · exact ⟨entity, hentity, text, heq.symm⟩
    · exact h rest hrest

theorem entitiesOnly_cons {c : Char} (hc : c ≠ '&') {text : List Char} :
    EntitiesOnly (c :: text) ↔ EntitiesOnly text := by
  have hsuffix : ∀ rest, '&' :: rest <:+ c :: text ↔ '&' :: rest <:+ text := by
    intro rest
    simp [List.suffix_cons_iff, hc.symm]
  simp only [EntitiesOnly, hsuffix]

/-- A text can be decoded exactly if every ampersand of it begins an entity. -/
theorem isSome_unescape?_iff {text : List Char} :
    (unescape? text).isSome = true ↔ EntitiesOnly text := by
  fun_induction unescape? text with
  | case1 => simp [EntitiesOnly]
  | case2 text ih =>
      have hentity : ampersandEntity ∈ entities := by simp [entities]
      rw [Option.isSome_map, ih]
      exact (entitiesOnly_entity_append hentity).symm
  | case3 text ih =>
      have hentity : lessEntity ∈ entities := by simp [entities]
      rw [Option.isSome_map, ih]
      exact (entitiesOnly_entity_append hentity).symm
  | case4 text ih =>
      have hentity : greaterEntity ∈ entities := by simp [entities]
      rw [Option.isSome_map, ih]
      exact (entitiesOnly_entity_append hentity).symm
  | case5 text hamp hless hgreater =>
      -- No entity begins here, so the ampersand at the front is one too many.
      simp only [Option.isSome_none, Bool.false_eq_true, false_iff]
      intro h
      obtain ⟨entity, hentity, more, hmore⟩ := h text List.suffix_rfl
      simp only [entities, List.mem_cons, List.not_mem_nil, or_false] at hentity
      rcases hentity with rfl | rfl | rfl
      · exact hamp more rfl (List.cons.inj hmore).2.symm
      · exact hless more rfl (List.cons.inj hmore).2.symm
      · exact hgreater more rfl (List.cons.inj hmore).2.symm
  | case6 c text _ _ _ hc ih => rw [Option.isSome_map, ih, entitiesOnly_cons hc]

theorem escape_injective : Function.Injective escape := by
  intro s t h
  have hdecoded : some s = some t := by
    rw [← unescape?_escape s, h, unescape?_escape]
  exact Option.some.inj hdecoded

/-- Escaping is a single pass that treats each character on its own.  It leaves nothing
that reads as markup: no angle bracket, and no ampersand that begins no entity.  Decoding
the entities in one pass gives the text back, so different texts stay different. -/
theorem escape_reversible :
    (∀ text, escape text = text.flatMap escapeChar ∧
      '<' ∉ escape text ∧ '>' ∉ escape text ∧ EntitiesOnly (escape text) ∧
      unescape? (escape text) = some text) ∧
    Function.Injective escape := by
  refine ⟨?_, escape_injective⟩
  intro text
  have hdecoded := unescape?_escape text
  have hentities : EntitiesOnly (escape text) := by
    apply isSome_unescape?_iff.mp
    rw [hdecoded, Option.isSome_some]
  refine ⟨escape_eq_flatMap text, ?_, ?_, hentities, hdecoded⟩
  · intro h
    exact (ne_bracket_of_mem_escape h).1 rfl
  · intro h
    exact (ne_bracket_of_mem_escape h).2 rfl

/-- A text that looks escaped is escaped once more. -/
example : escape "&amp;lt;".toList = "&amp;amp;lt;".toList := by decide

end ClassDiagram.Svg
