import ClassDiagram.Proofs.ScanResult

/-!
# What becomes of declarations

Taking in the declarations of a text passes none of them over.  The body of a declaration
makes a new definition, or an event says that the class has a definition already, or an
event says that no body follows.  An account states this on its own, by the bodies in the
text and the classes that have a definition so far; the outcomes of declarations are
proved to be the account of them.

No opening brace stands behind a declaration without a body, so none of the later
declarations has a body.  The outcomes of this kind are therefore the last ones.

Main results:

- Theorem `Findings.account_outcomes`: outcomes account for declarations one by one.
- Theorem `Findings.records_declareAll`: the records that declarations add are those of
  their outcomes.
- Theorem `Findings.accounted_outcomes`: what taking in a text does with each of its
  declarations.
-/

namespace ClassDiagram

open Text

/-! ## Cutting a list -/

/-- A list in which a property, once it holds, goes on holding is cut where it begins to. -/
theorem exists_append_of_pairwise {α : Type} {p : α → Prop} {l : List α}
    (h : l.Pairwise fun a b => p a → p b) :
    ∃ front back, l = front ++ back ∧ (∀ a ∈ front, ¬ p a) ∧ ∀ a ∈ back, p a := by
  induction l with
  | nil => exact ⟨[], [], by simp⟩
  | cons a l ih =>
      obtain ⟨hhead, hrest⟩ := List.pairwise_cons.mp h
      by_cases ha : p a
      · refine ⟨[], a :: l, by simp, by simp, ?_⟩
        intro b hb
        rcases List.mem_cons.mp hb with rfl | hb
        · exact ha
        · exact hhead b hb ha
      · obtain ⟨front, back, rfl, hfront, hback⟩ := ih hrest
        refine ⟨a :: front, back, rfl, ?_, hback⟩
        intro b hb
        rcases List.mem_cons.mp hb with rfl | hb
        · exact ha
        · exact hfront b hb

/-! ## Kinds of events -/

/-- The event says that a class was declared again. -/
def Event.isRepetition : Event → Bool
  | declaredAgain _ => true
  | _ => false

/-- The event says that a declaration has no body. -/
def Event.isLackOfBody : Event → Bool
  | bodyMissing _ => true
  | _ => false

namespace Findings

variable {s : Findings} {buffer : List Char} {d : Declaration}

/-! ## Accounts -/

/-- The record that an outcome adds. -/
def Outcome.record? : Outcome → Option (ClassName × Definition)
  | defined new => some (new.name, new)
  | repeated _ | bodiless _ => none

/-- Outcomes that account for declarations of the text, one for each and in their order,
where the known classes have a definition beforehand. -/
inductive Account (buffer : List Char) :
    List ClassName → List Declaration → List Outcome → Prop
  | nil {known : List ClassName} : Account buffer known [] []
  /-- A body makes the first definition of its class, which is known from there on. -/
  | defined {known : List ClassName} {d : Declaration} {body : List Char}
      {ds : List Declaration} {os : List Outcome} (found : bodyFrom? buffer d.start = some body)
      (unknown : d.name ∉ known) (rest : Account buffer (known ++ [d.name]) ds os) :
      Account buffer known (d :: ds) (.defined ⟨d.name, body⟩ :: os)
  /-- A body of a known class is left out. -/
  | repeated {known : List ClassName} {d : Declaration} {body : List Char}
      {ds : List Declaration} {os : List Outcome} (found : bodyFrom? buffer d.start = some body)
      (isKnown : d.name ∈ known) (rest : Account buffer known ds os) :
      Account buffer known (d :: ds) (.repeated d.name :: os)
  /-- No body follows, whether the class is known or not. -/
  | bodiless {known : List ClassName} {d : Declaration} {ds : List Declaration}
      {os : List Outcome} (missing : bodyFrom? buffer d.start = none)
      (rest : Account buffer known ds os) :
      Account buffer known (d :: ds) (.bodiless d.name :: os)

namespace Account

variable {known : List ClassName} {ds : List Declaration} {os : List Outcome}

/-- An outcome of lacking a body is that of a declaration without one. -/
theorem exists_of_bodiless_mem (h : Account buffer known ds os) {name : ClassName}
    (hmem : .bodiless name ∈ os) : ∃ d ∈ ds, bodyFrom? buffer d.start = none := by
  induction h with
  | nil => cases hmem
  | defined found unknown rest ih =>
      simp only [List.mem_cons, reduceCtorEq, false_or] at hmem
      obtain ⟨d, hd, hnone⟩ := ih hmem
      exact ⟨d, List.mem_cons_of_mem _ hd, hnone⟩
  | repeated found isKnown rest ih =>
      simp only [List.mem_cons, reduceCtorEq, false_or] at hmem
      obtain ⟨d, hd, hnone⟩ := ih hmem
      exact ⟨d, List.mem_cons_of_mem _ hd, hnone⟩
  | bodiless missing rest ih => exact ⟨_, List.mem_cons_self, missing⟩

/-- Declarations without a body all have that for their outcome. -/
theorem eq_map_bodiless (h : Account buffer known ds os)
    (hmissing : ∀ d ∈ ds, bodyFrom? buffer d.start = none) :
    os = ds.map fun d => .bodiless d.name := by
  induction h with
  | nil => rfl
  | defined found unknown rest ih =>
      rw [hmissing _ List.mem_cons_self] at found
      cases found
  | repeated found isKnown rest ih =>
      rw [hmissing _ List.mem_cons_self] at found
      cases found
  | bodiless missing rest ih =>
      rw [List.map_cons, ← ih fun d hd => hmissing d (List.mem_cons_of_mem _ hd)]

end Account

/-! ## Outcomes as an account -/

theorem outcome_of_missing (h : bodyFrom? buffer d.start = none) :
    s.outcome buffer d = .bodiless d.name := by
  simp only [outcome, h]

theorem outcome_of_found {body : List Char} (h : bodyFrom? buffer d.start = some body) :
    s.outcome buffer d =
      if d.name ∈ s.records.map Prod.fst then .repeated d.name
      else .defined ⟨d.name, body⟩ := by
  simp only [outcome, h, defines_iff]

/-- Taking in a declaration adds the record of its outcome. -/
theorem records_declare (s : Findings) (buffer : List Char) (d : Declaration) :
    (s.declare buffer d).records = s.records ++ (s.outcome buffer d).record?.toList := by
  have hnamed : ((s.addClass d.name).addSupertype d.name d.supertype).records = s.records := by
    cases d.supertype <;> rfl
  rw [declare]
  cases s.outcome buffer d with
  | defined new => simp [settle, hnamed, Outcome.record?]
  | repeated name => simp [settle, hnamed, Outcome.record?]
  | bodiless name => simp [settle, hnamed, Outcome.record?]

/-- Taking in declarations adds the records of their outcomes. -/
theorem records_declareAll (s : Findings) (buffer : List Char) (ds : List Declaration) :
    (s.declareAll buffer ds).records =
      s.records ++ (s.outcomes buffer ds).filterMap Outcome.record? := by
  induction ds generalizing s with
  | nil => simp [outcomes]
  | cons d ds ih =>
      rw [declareAll_cons, ih, records_declare, outcomes, List.append_assoc]
      cases h : (s.outcome buffer d).record? <;> simp [h]

/-- Outcomes account for declarations one by one. -/
theorem account_outcomes (s : Findings) (buffer : List Char) (ds : List Declaration) :
    Account buffer (s.records.map Prod.fst) ds (s.outcomes buffer ds) := by
  induction ds generalizing s with
  | nil => exact .nil
  | cons d ds ih =>
      -- What is filed behind the first declaration are the known classes of the others.
      have hrest := ih (s.declare buffer d)
      rw [records_declare, List.map_append] at hrest
      rw [outcomes]
      cases hbody : bodyFrom? buffer d.start with
      | none =>
          rw [outcome_of_missing hbody] at hrest ⊢
          exact .bodiless hbody (by simpa [Outcome.record?] using hrest)
      | some body =>
          rw [outcome_of_found hbody] at hrest ⊢
          by_cases hknown : d.name ∈ s.records.map Prod.fst
          · rw [if_pos hknown] at hrest ⊢
            exact .repeated hbody hknown (by simpa [Outcome.record?] using hrest)
          · rw [if_neg hknown] at hrest ⊢
            exact .defined hbody hknown (by simpa [Outcome.record?] using hrest)

theorem outcomes_take (s : Findings) (buffer : List Char) (ds : List Declaration) (n : Nat) :
    s.outcomes buffer (ds.take n) = (s.outcomes buffer ds).take n := by
  induction ds generalizing s n with
  | nil => simp [outcomes]
  | cons d ds ih =>
      cases n with
      | zero => rfl
      | succ n => rw [List.take_succ_cons, outcomes, outcomes, List.take_succ_cons, ih]

/-- An outcome adds a record or causes an event of one of two kinds. -/
theorem length_eq_records_add_events (os : List Outcome) :
    os.length = (os.filterMap Outcome.record?).length +
      ((os.filterMap Outcome.event?).countP Event.isRepetition +
        (os.filterMap Outcome.event?).countP Event.isLackOfBody) := by
  induction os with
  | nil => rfl
  | cons o os ih =>
      cases o
      all_goals
        simp [List.filterMap_cons, List.countP_cons, Outcome.record?, Outcome.event?,
          Event.isRepetition, Event.isLackOfBody, ih]
        omega

/-! ## Texts -/

/-- What the outcomes tell about taking in the declarations of a text. -/
structure Accounted (s : Findings) (buffer : List Char) (os : List Outcome) : Prop where
  /-- There is one for each declaration, in their order. -/
  account : Account buffer (s.records.map Prod.fst) (declarations buffer) os
  /-- After any number of declarations, the records of as many outcomes have been added. -/
  records_after (n : Nat) :
    (s.declareAll buffer ((declarations buffer).take n)).records =
      s.records ++ (os.take n).filterMap Outcome.record?
  /-- The records that the text adds are those of all outcomes. -/
  records_eq : (s.addDeclarations buffer).records = s.records ++ os.filterMap Outcome.record?
  /-- The events are those of the outcomes. -/
  events_eq : s.declarationEvents buffer = os.filterMap Outcome.event?
  /-- The records added and the events of the two kinds are as many as the declarations. -/
  length_eq : s.records.length + (declarations buffer).length =
    (s.addDeclarations buffer).records.length +
      ((s.declarationEvents buffer).countP Event.isRepetition +
        (s.declarationEvents buffer).countP Event.isLackOfBody)
  /-- The outcomes of lacking a body come behind all others. -/
  bodiless_last : ∃ (settled : List Outcome) (lacking : List ClassName),
    os = settled ++ lacking.map .bodiless ∧ ∀ name, .bodiless name ∉ settled
  /-- No declaration without a body is followed by one with a body. -/
  bodyless_followed : (declarations buffer).Pairwise fun d e =>
    bodyFrom? buffer d.start = none → bodyFrom? buffer e.start = none

/-- The declarations of a text are cut where they begin to lack bodies, and their outcomes
are cut there as well. -/
theorem exists_settled_outcomes (s : Findings) (buffer : List Char) :
    ∃ (settled : List Outcome) (lacking : List ClassName),
      s.outcomes buffer (declarations buffer) = settled ++ lacking.map .bodiless ∧
        ∀ name, .bodiless name ∉ settled := by
  obtain ⟨ds, es, hsplit, hfound, hmissing⟩ :=
    exists_append_of_pairwise (pairwise_bodyFrom?_declarations buffer)
  refine ⟨s.outcomes buffer ds, es.map Declaration.name, ?_, ?_⟩
  · have hlacking := ((s.declareAll buffer ds).account_outcomes buffer es).eq_map_bodiless hmissing
    rw [hsplit, outcomes_append, hlacking, List.map_map]
    rfl
  · intro name hmem
    obtain ⟨d, hd, hnone⟩ := (s.account_outcomes buffer ds).exists_of_bodiless_mem hmem
    exact hfound d hd hnone

/-- Every declaration of a text is accounted for, whatever the findings were before: its
body is added as a record, or one event says that the class is declared again, or one event
says that no body follows, and the events of the last kind come behind everything else. -/
theorem accounted_outcomes (s : Findings) (buffer : List Char) :
    s.Accounted buffer (s.outcomes buffer (declarations buffer)) where
  account := s.account_outcomes buffer _
  records_after n := by rw [records_declareAll, outcomes_take]
  records_eq := s.records_declareAll buffer _
  events_eq := rfl
  length_eq := by
    have hcount := length_eq_records_add_events (s.outcomes buffer (declarations buffer))
    rw [length_outcomes] at hcount
    rw [addDeclarations, records_declareAll, List.length_append, declarationEvents]
    omega
  bodiless_last := s.exists_settled_outcomes buffer
  bodyless_followed := pairwise_bodyFrom?_declarations buffer

/-- A class that is declared twice, the second time with another body, and one without. -/
example : empty.declarationEvents "class Hen { a } class Hen { b } class Egg;".toList =
    [.declaredAgain ⟨"Hen".toList, by decide⟩, .bodyMissing ⟨"Egg".toList, by decide⟩] := by
  decide +kernel

end Findings

end ClassDiagram
