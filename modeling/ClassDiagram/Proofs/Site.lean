import ClassDiagram.Proofs.BodySpan
import ClassDiagram.Proofs.Reading

/-!
# Sites of declarations

A declaration is known by the byte position at which it starts.  Its body,
however, depends only on the text from that position on.  A site is a
declaration together with that text; it says everything that findings take from
the declaration, without any arithmetic on positions.

Main results:

- Theorem `declarations_eq_map_sites`: the declarations of a text are its sites,
  each with the position at which its text starts.
- Theorem `pairwise_suffix_sites`: each site lies in the text of every site
  before it.
-/

namespace ClassDiagram

open Text

/-! ## Sites -/

/-- A declaration with the text from its keyword on. -/
structure Site where
  /-- The declared class. -/
  name : ClassName
  /-- The class it extends, if one is named. -/
  supertype : Option ClassName
  /-- The text from the keyword on. -/
  text : List Char
deriving DecidableEq

/-- The sites in a text, from left to right. -/
def sites (cs : List Char) : List Site :=
  match _found : Heading.read? cs with
  | some heading => ⟨heading.name, heading.supertype, cs⟩ :: sites heading.rest
  | none =>
      match cs with
      | [] => []
      | _ :: cs => sites cs
termination_by cs.length
decreasing_by
  · exact Heading.length_rest_lt_of_read? _found
  · simp

@[simp]
theorem sites_nil : sites [] = [] := by
  rw [sites]
  rfl

theorem sites_of_read? {cs : List Char} {h : Heading} (hr : Heading.read? cs = some h) :
    sites cs = ⟨h.name, h.supertype, cs⟩ :: sites h.rest := by
  rw [sites]
  split
  next hr' =>
    rw [hr] at hr'
    cases hr'
    rfl
  next hr' =>
    rw [hr] at hr'
    cases hr'

theorem sites_cons_of_read? {c : Char} {cs : List Char} (hr : Heading.read? (c :: cs) = none) :
    sites (c :: cs) = sites cs := by
  rw [sites]
  split
  next hr' =>
    rw [hr] at hr'
    cases hr'
  next => rfl

/-- Induction along the search for declarations: past a heading to what it
leaves, and elsewhere past one character. -/
@[elab_as_elim]
theorem sites_induction {motive : List Char → Prop} (nil : motive [])
    (heading : ∀ cs h, Heading.read? cs = some h → motive h.rest → motive cs)
    (skip : ∀ c cs, Heading.read? (c :: cs) = none → motive cs → motive (c :: cs))
    (cs : List Char) : motive cs := by
  induction hlen : cs.length using Nat.strong_induction_on generalizing cs with
  | _ n ih =>
      subst hlen
      cases hr : Heading.read? cs with
      | some h => exact heading cs h hr (ih _ (Heading.length_rest_lt_of_read? hr) _ rfl)
      | none =>
          cases cs with
          | nil => exact nil
          | cons c cs => exact skip c cs hr (ih _ (by simp) cs rfl)

/-- A site lies in the text. -/
theorem suffix_of_mem_sites {cs : List Char} {x : Site} (hx : x ∈ sites cs) : x.text <:+ cs := by
  induction cs using sites_induction with
  | nil => simp at hx
  | heading cs h hr ih =>
      rw [sites_of_read? hr, List.mem_cons] at hx
      rcases hx with rfl | hx
      · exact List.suffix_rfl
      · exact (ih hx).trans (Heading.suffix_rest_of_read? hr)
  | skip c cs hr ih =>
      rw [sites_cons_of_read? hr] at hx
      exact (ih hx).trans (List.suffix_cons c cs)

theorem text_ne_nil_of_mem_sites {cs : List Char} {x : Site} (hx : x ∈ sites cs) :
    x.text ≠ [] := by
  induction cs using sites_induction with
  | nil => simp at hx
  | heading cs h hr ih =>
      rw [sites_of_read? hr, List.mem_cons] at hx
      rcases hx with rfl | hx
      · exact List.ne_nil_of_length_pos (Nat.zero_lt_of_lt (Heading.length_rest_lt_of_read? hr))
      · exact ih hx
  | skip c cs hr ih =>
      rw [sites_cons_of_read? hr] at hx
      exact ih hx

/-- Each site lies in the text of every site before it. -/
theorem pairwise_suffix_sites (cs : List Char) :
    (sites cs).Pairwise fun x y => y.text <:+ x.text := by
  induction cs using sites_induction with
  | nil => simp
  | heading cs h hr ih =>
      rw [sites_of_read? hr, List.pairwise_cons]
      refine ⟨?_, ih⟩
      intro y hy
      exact (suffix_of_mem_sites hy).trans (Heading.suffix_rest_of_read? hr)
  | skip c cs hr ih => rwa [sites_cons_of_read? hr]

/-! ## Sites and declarations -/

namespace Site

/-- The declaration at a site of the text. -/
def declarationIn (x : Site) (buffer : List Char) : Declaration where
  name := x.name
  supertype := x.supertype
  start := byteLength buffer - byteLength x.text

/-- The body that follows the declaration. -/
def body? (x : Site) : Option (List Char) :=
  bodyIn? x.text

theorem start_declarationIn (x : Site) (lead : List Char) :
    (x.declarationIn (lead ++ x.text)).start = byteLength lead := by
  simp [declarationIn]

/-- The body found from the position of a declaration on is that of its site. -/
theorem bodyFrom?_start {x : Site} {buffer : List Char} (h : x.text <:+ buffer) :
    bodyFrom? buffer (x.declarationIn buffer).start = x.body? := by
  obtain ⟨lead, rfl⟩ := h
  rw [start_declarationIn, bodyFrom?_byteLength, body?]

end Site

theorem declarationsFrom_of_read? {cs : List Char} {h : Heading} (hr : Heading.read? cs = some h)
    (position : Nat) :
    declarationsFrom position cs =
      ⟨h.name, h.supertype, position⟩ ::
        declarationsFrom (position + (byteLength cs - byteLength h.rest)) h.rest := by
  rw [declarationsFrom]
  split
  next hr' =>
    rw [hr] at hr'
    cases hr'
    rfl
  next hr' =>
    rw [hr] at hr'
    cases hr'

theorem declarationsFrom_cons_of_read? {c : Char} {cs : List Char}
    (hr : Heading.read? (c :: cs) = none) (position : Nat) :
    declarationsFrom position (c :: cs) = declarationsFrom (position + c.utf8Size) cs := by
  rw [declarationsFrom]
  split
  next hr' =>
    rw [hr] at hr'
    cases hr'
  next => rfl

/-- The declarations of a part of a text that goes to its end. -/
theorem declarationsFrom_eq_map_sites (lead cs : List Char) :
    declarationsFrom (byteLength lead) cs =
      (sites cs).map fun x => x.declarationIn (lead ++ cs) := by
  induction cs using sites_induction generalizing lead with
  | nil =>
      rw [declarationsFrom, sites_nil]
      rfl
  | heading cs h hr ih =>
      obtain ⟨used, hused⟩ := Heading.suffix_rest_of_read? hr
      have hposition : byteLength lead + (byteLength cs - byteLength h.rest) =
          byteLength (lead ++ used) := by
        rw [← hused, byteLength_append, byteLength_append]
        omega
      have hhead : (⟨h.name, h.supertype, byteLength lead⟩ : Declaration) =
          Site.declarationIn ⟨h.name, h.supertype, cs⟩ (lead ++ cs) := by
        simp [Site.declarationIn]
      have htext : lead ++ used ++ h.rest = lead ++ cs := by
        rw [List.append_assoc, hused]
      rw [declarationsFrom_of_read? hr, sites_of_read? hr, List.map_cons, hhead, hposition, ih,
        htext]
  | skip c cs hr ih =>
      have hposition : byteLength lead + c.utf8Size = byteLength (lead ++ [c]) := by simp
      rw [declarationsFrom_cons_of_read? hr, sites_cons_of_read? hr, hposition, ih,
        List.append_assoc, List.singleton_append]

/-- The declarations of a text are its sites, each with the position at which its
text starts. -/
theorem declarations_eq_map_sites (buffer : List Char) :
    declarations buffer = (sites buffer).map fun x => x.declarationIn buffer :=
  declarationsFrom_eq_map_sites [] buffer

end ClassDiagram
