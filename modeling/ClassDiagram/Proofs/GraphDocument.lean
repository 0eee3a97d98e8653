import ClassDiagram.Graph.Json
import ClassDiagram.Graph.Read
import ClassDiagram.Proofs.PassedText

/-!
# Reading graphs back from their documents

A graph is written as a document of its own or inside the request to lay it out.  Either
document is read as the same graph: numbers are read back from their digits, strings from
their escaped characters, and the request's id and options are passed over.

Main results:

- Theorem `Json.readBack_word32`: a number of 32 bits is read back from its digits.
- Theorem `Graph.takes_memberList`: the members of a graph's document make up the graph.
- Theorem `Graph.ofJson_toJson`: a graph is read back from its document and from its request.
-/

namespace ClassDiagram

namespace Json

/-! ## Numbers -/

section

variable {limit start n : Nat} {digits rest : List Char}

theorem Ended.startsWithDigit (h : Ended rest) : startsWithDigit rest = false := by
  obtain ⟨c, cs, rfl, rfl | rfl | rfl⟩ := h <;> rfl

theorem le_ofDigitChars (digits : List Char) (start : Nat) :
    start ≤ Nat.ofDigitChars 10 digits start := by
  rw [Nat.ofDigitChars_eq_ofDigitChars_zero]
  have hpow : 0 < 10 ^ digits.length := Nat.pow_pos (by decide)
  have hle := Nat.le_mul_of_pos_left start hpow
  omega

/-- Digits are gathered up to the first character that is none, as long as their value stays
below the limit. -/
theorem gather_of_digits (hdigits : ∀ c ∈ digits, c.isDigit = true)
    (hlimit : Nat.ofDigitChars 10 digits start < limit)
    (hrest : Json.startsWithDigit rest = false) :
    gather limit start (digits ++ rest) =
      ⟨Nat.ofDigitChars 10 digits start, digits.length, rest⟩ := by
  induction digits generalizing start with
  | nil =>
      cases rest with
      | nil => rfl
      | cons c cs =>
          have hc : c.isDigit = false := hrest
          simp [gather, hc]
  | cons c digits ih =>
      have hc := hdigits c List.mem_cons_self
      have hvalue : Nat.ofDigitChars 10 (c :: digits) start =
          Nat.ofDigitChars 10 digits (start * 10 + digitValue c) := by
        rw [Nat.ofDigitChars_cons, Nat.mul_comm]
        rfl
      rw [hvalue] at hlimit ⊢
      have happended : start * 10 + digitValue c < limit :=
        Nat.lt_of_le_of_lt (le_ofDigitChars digits _) hlimit
      rw [List.cons_append, gather]
      simp only [hc, happended, decide_true, Bool.and_self, if_true,
        ih (fun d hd => hdigits d (List.mem_cons_of_mem c hd)) hlimit, List.length_cons]

/-- The digits of a number do not start with a zero, unless it is zero. -/
theorem head?_toDigits (hn : n ≠ 0) : (Nat.toDigits 10 n).head? ≠ some '0' := by
  induction n using Nat.strongRecOn with
  | _ n ih =>
      by_cases hlt : n < 10
      · rw [Nat.toDigits_of_lt_base hlt, List.head?_singleton]
        simpa using hn
      · rw [Nat.toDigits_of_base_le (by decide) (by omega),
          List.head?_append_of_ne_nil _ Nat.toDigits_ne_nil]
        exact ih (n / 10) (by omega) (by omega)

theorem readAfterWhole_of_ended (h : Ended rest) (n : Nat) :
    readAfterWhole false n rest = .ok (.natural n, rest) := by
  obtain ⟨c, cs, rfl, rfl | rfl | rfl⟩ := h <;> rfl

theorem readUnsigned_of_gather {c : Char} {cs : List Char} {count : Nat} (hc : c.isDigit = true)
    (hzero : c ≠ '0') (hgather : gather significandLimit 0 (c :: cs) = ⟨n, count, rest⟩)
    (hrest : Ended rest) : readUnsigned false (c :: cs) = .ok (.natural n, rest) := by
  rw [readUnsigned.eq_def]
  split
  next heq => cases heq
  next heq => exact absurd (List.cons.inj heq).1 hzero
  next =>
    simp only [startsWithDigit, List.head?_cons, Option.any_some, hc, if_true, hgather]
    rw [← startsWithDigit, hrest.startsWithDigit]
    exact readAfterWhole_of_ended hrest n

theorem isDigit_of_mem_writeNat {c : Char} (hc : c ∈ writeNat n) : c.isDigit = true :=
  Nat.isDigit_of_mem_toDigits (by decide) (by decide) hc

/-- The text of a number begins with a digit. -/
theorem exists_writeNat_eq_cons (n : Nat) : ∃ c cs, writeNat n = c :: cs ∧ c.isDigit = true := by
  cases htext : writeNat n with
  | nil => exact absurd htext Nat.toDigits_ne_nil
  | cons c cs =>
      refine ⟨c, cs, rfl, isDigit_of_mem_writeNat (n := n) ?_⟩
      rw [htext]
      exact List.mem_cons_self

theorem gather_writeNat (hn : n < limit) (hrest : Ended rest) :
    gather limit 0 (writeNat n ++ rest) = ⟨n, (writeNat n).length, rest⟩ := by
  have hvalue : Nat.ofDigitChars 10 (writeNat n) 0 = n := Nat.ofDigitChars_ten_toDigits
  rw [gather_of_digits (fun c hc => isDigit_of_mem_writeNat hc) (by rwa [hvalue])
    hrest.startsWithDigit, hvalue]

/-- A number is read from its digits, if they end where a value may end. -/
theorem readUnsigned_writeNat (hn : n < significandLimit) (hrest : Ended rest) :
    readUnsigned false (writeNat n ++ rest) = .ok (.natural n, rest) := by
  by_cases hzero : n = 0
  · subst hzero
    rw [writeNat, Nat.toDigits_zero, List.singleton_append, readUnsigned,
      hrest.startsWithDigit]
    exact readAfterWhole_of_ended hrest 0
  · have hgather := gather_writeNat hn hrest
    have hhead : (writeNat n).head? ≠ some '0' := head?_toDigits hzero
    obtain ⟨c, cs, htext, hc⟩ := exists_writeNat_eq_cons n
    rw [htext] at hgather hhead ⊢
    exact readUnsigned_of_gather hc (fun heq => hhead (congrArg some heq)) hgather hrest

theorem readNumber_writeNat (hn : n < significandLimit) (hrest : Ended rest) :
    readNumber (writeNat n ++ rest) = .ok (.natural n, rest) := by
  have hread := readUnsigned_writeNat hn hrest
  obtain ⟨c, cs, htext, hc⟩ := exists_writeNat_eq_cons n
  rw [htext] at hread ⊢
  have hminus : c ≠ '-' := by
    rintro rfl
    cases hc
  rw [← hread, List.cons_append, readNumber.eq_def]
  split
  next heq => exact absurd (List.cons.inj heq).1 hminus
  next => rfl

theorem not_isSpace_of_isDigit {c : Char} (hc : c.isDigit = true) : isSpace c = false := by
  cases hspace : isSpace c with
  | false => rfl
  | true =>
      simp only [isSpace, Bool.or_eq_true, beq_iff_eq] at hspace
      obtain ((rfl | rfl) | rfl) | rfl := hspace <;> cases hc

end

/-- A number of 32 bits is read back from its digits. -/
theorem readBack_word32 (w : UInt32) : ReadBack readWord32 (writeNat w.toNat) w := by
  have hlimit : w.toNat < significandLimit :=
    Nat.lt_trans w.toNat_lt (by decide)
  have hword : (Number.natural w.toNat).toWord = .ok w := by
    rw [Number.toWord, if_pos w.toNat_lt, UInt32.ofNat_toNat]
  obtain ⟨c, cs, htext, hc⟩ := exists_writeNat_eq_cons w.toNat
  have hspace := not_isSpace_of_isDigit hc
  refine ⟨⟨c, cs, htext, hspace, ?_⟩, fun rest hended => ?_⟩
  · rintro rfl
    cases hc
  · have hread := readNumber_writeNat hlimit hended
    rw [htext, List.cons_append] at hread ⊢
    simp only [readWord32, readNumberAs, bind, StateT.bind, Except.bind, peek?_cons hspace, hc,
      Bool.or_true, if_true, hread, hword]
    rfl

end Json

open Json

/-! ## Graphs -/

/-- The tag of a kind is read back. -/
theorem RelationshipKind.readBack (k : RelationshipKind) :
    ReadBack reader (writeString k.tag) k where
  begins := ⟨'"', _, rfl, by decide, by decide⟩
  read := by
    intro rest _
    rw [reader, readTag, writeString_append]
    simp only [bind, StateT.bind, Except.bind, peek?_cons (c := '"') (by decide), skipChar,
      List.drop_succ_cons, List.drop_zero, readTagText, readText_writeString, ofTag?_tag]
    rfl

/-- A box is read back from its text. -/
theorem GraphNode.readBack (node : GraphNode) : ReadBack shape.read node.write node := by
  have htakes : shape.Takes [] shape.blank
      [("id", writeString node.id), ("width", writeNat node.width.toNat),
        ("height", writeNat node.height.toNat)] ["height", "width", "id"] node :=
    .put rfl rfl (readBack_string _)
      (.put rfl rfl (readBack_word32 _) (.put rfl rfl (readBack_word32 _) .nil))
  exact htakes.readBack rfl

/-- A caption is read back from its text. -/
theorem Caption.readBack (label : Caption) : ReadBack shape.read label.write label := by
  have htakes : shape.Takes [] shape.blank [("text", writeString label.text)] ["text"] label :=
    .put rfl rfl (readBack_string _) .nil
  exact htakes.readBack rfl

/-- An edge is read back from its text. -/
theorem GraphEdge.readBack (edge : GraphEdge) : ReadBack shape.read edge.write edge := by
  have htakes : shape.Takes [] shape.blank
      [("id", writeString edge.id), ("sources", writeArray (edge.sources.map writeString)),
        ("targets", writeArray (edge.targets.map writeString)),
        ("labels", writeArray (edge.labels.map Caption.write)),
        ("style", writeString edge.style.tag)]
      ["style", "labels", "targets", "sources", "id"] edge := by
    refine .put rfl rfl (readBack_string _) ?_
    refine .put rfl rfl (readBack_map readBack_string _) ?_
    refine .put rfl rfl (readBack_map readBack_string _) ?_
    refine .put rfl rfl (readBack_map Caption.readBack _) ?_
    exact .put rfl rfl edge.style.readBack .nil
  exact htakes.readBack rfl

namespace Graph

/-- The members of a graph's document, as keys and texts. -/
def memberList (g : Graph) : List (String × List Char) :=
  [("children", writeArray (g.children.map GraphNode.write)),
   ("edges", writeArray (g.edges.map GraphEdge.write))]

/-- The members of a graph's document make up the graph. -/
theorem takes_memberList (g : Graph) :
    shape.Takes [] shape.blank g.memberList ["edges", "children"] g := by
  refine .put rfl rfl (readBack_map GraphNode.readBack _) ?_
  exact .put rfl rfl (readBack_map GraphEdge.readBack _) .nil

/-- A text is read as a graph if it is that of an object with the graph's members, behind
members that a graph does not have. -/
theorem ofJson_writeObject {others : List (String × List Char)} (hothers : shape.Ignores others)
    (g : Graph) :
    ofJson (String.ofList (writeObject (Shape.memberTexts (others ++ g.memberList)))) =
      .ok g := by
  have hread := Shape.read_writeObject_behind hothers g.takes_memberList rfl []
  rw [List.append_nil] at hread
  rw [ofJson, readWhole, String.toList_ofList, hread]
  rfl

end Graph

namespace LayoutRequest

/-- The members of a request in front of those of its graph. -/
def header : List (String × List Char) :=
  [("id", writeString rootId), ("layoutOptions", writeOptions)]

theorem passed_writeOptions : Passed writeOptions := by
  have htext : writeOptions =
      writeObject (Shape.memberTexts (options.map fun o => (o.1, writeString o.2))) := by
    rw [writeOptions, Shape.memberTexts, List.map_map]
    rfl
  rw [htext]
  apply passed_object
  intro m hm
  obtain ⟨⟨key, value⟩, -, rfl⟩ := List.mem_map.mp hm
  exact passed_string value

theorem ignores_header : Graph.shape.Ignores header := by
  intro m hm
  rcases List.mem_cons.mp hm with rfl | hm
  · exact ⟨rfl, passed_string rootId⟩
  · rw [List.mem_singleton.mp hm]
    exact ⟨rfl, passed_writeOptions⟩

end LayoutRequest

/-- A graph is read back from its document, and also from the request to lay it out, whose id
and options are passed over.  So writing what was read gives a text that stays the same when
it is read and written again. -/
theorem Graph.ofJson_toJson (g : Graph) :
    ofJson g.toJson = .ok g ∧ ofJson (LayoutRequest.toJson g) = .ok g ∧
      ∀ text text', (ofJson text).map toJson = .ok text' →
        (ofJson text').map toJson = .ok text' := by
  have hdocument : ∀ g : Graph, ofJson g.toJson = .ok g :=
    @ofJson_writeObject [] fun _ hm => nomatch hm
  refine ⟨hdocument g, ofJson_writeObject LayoutRequest.ignores_header g, ?_⟩
  intro text text' htext
  cases hread : ofJson text with
  | error failure =>
      rw [hread] at htext
      cases htext
  | ok g' =>
      rw [hread] at htext
      cases htext
      rw [hdocument]
      rfl

end ClassDiagram
