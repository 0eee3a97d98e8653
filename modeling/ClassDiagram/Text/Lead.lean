/-!
# Texts that start with a given text

Main result: `afterLead?_eq_some_iff`, which says that cutting off a lead
succeeds exactly on the texts that start with it, and gives the rest.
-/

namespace ClassDiagram.Text

/-- The text after the given lead, if it starts with it. -/
def afterLead? : List Char → List Char → Option (List Char)
  | [], cs => some cs
  | _ :: _, [] => none
  | l :: ls, c :: cs => if l = c then afterLead? ls cs else none

@[simp] theorem afterLead?_nil (cs : List Char) : afterLead? [] cs = some cs := by
  cases cs <;> rfl

@[simp] theorem afterLead?_append (lead cs : List Char) :
    afterLead? lead (lead ++ cs) = some cs := by
  induction lead with
  | nil => simp
  | cons l ls ih => simp [afterLead?, ih]

theorem afterLead?_eq_some_iff {lead cs rest : List Char} :
    afterLead? lead cs = some rest ↔ cs = lead ++ rest := by
  constructor
  · intro h
    induction lead generalizing cs with
    | nil => simpa using h
    | cons l ls ih =>
      cases cs with
      | nil => simp [afterLead?] at h
      | cons c cs =>
        by_cases hc : l = c
        · simp only [afterLead?, hc, if_true] at h
          simp [ih h, hc]
        · simp [afterLead?, hc] at h
  · rintro rfl
    simp

theorem length_le_of_afterLead? {lead cs rest : List Char}
    (h : afterLead? lead cs = some rest) : rest.length ≤ cs.length := by
  rw [afterLead?_eq_some_iff.1 h, List.length_append]
  omega

end ClassDiagram.Text
