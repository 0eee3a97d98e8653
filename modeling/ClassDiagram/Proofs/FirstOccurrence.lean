import ClassDiagram.Class.Relationship
import ClassDiagram.Class.Set
import Mathlib.Data.List.Forall2
import Mathlib.Data.List.Nodup

/-!
# Keeping first occurrences

Class sets, filed definitions and relationship logs all grow by appending what
is new under some key.  Adding a whole list that way appends, of the elements
whose keys are new, those whose keys occur for the first time.  This module
states that once for lists and reads off it what sets and logs hold.

Main results:

- Theorem `foldl_appendNew`: the closed form of adding a list of elements.
- Theorem `foldl_appendNew_eq_self`: what is there already adds nothing.
- Theorem `firstsBy_append`: the first occurrences in a list stay the first ones
  in any longer list.
- Theorem `forall₂_firstsBy`: lists that agree in their keys agree in which
  elements they keep.
- Theorems `mem_firstsBy_iff` and `mem_firstsBy_flatMap`: first occurrences are what
  a search by key finds, and blocks that share no keys do not disturb each other.
- Theorems `ClassSet.names_insertAll` and `RelationshipLog.entries_pushAll`: what
  a set and a log hold after a list of insertions.
-/

namespace ClassDiagram

section FirstOccurrences

variable {α β κ ι : Type} [DecidableEq κ]

/-! ## First occurrences in a list -/

/-- The elements of a list whose keys no element before them has. -/
def firstsBy (key : α → κ) (l : List α) : List α :=
  l.eraseDupsBy fun a b => key a == key b

@[simp]
theorem firstsBy_nil (key : α → κ) : firstsBy key [] = [] :=
  rfl

theorem firstsBy_cons (key : α → κ) (a : α) (l : List α) :
    firstsBy key (a :: l) = a :: firstsBy key (l.filter fun b => key b ≠ key a) := by
  rw [firstsBy, List.eraseDupsBy_cons]
  congr 2
  simp

/-- With the elements themselves as keys, duplicates are erased. -/
theorem firstsBy_id [DecidableEq α] (l : List α) : firstsBy id l = l.eraseDups :=
  rfl

/-- Induction along the first occurrences: what holds once the later elements
with the key of the head are gone has to hold with them. -/
@[elab_as_elim]
theorem firstsBy_induction (key : α → κ) {motive : List α → Prop} (nil : motive [])
    (cons : ∀ a l, motive (l.filter fun b => key b ≠ key a) → motive (a :: l)) :
    ∀ l, motive l
  | [] => nil
  | a :: l => cons a l (firstsBy_induction key nil cons _)
termination_by l => l.length
decreasing_by exact Nat.lt_succ_of_le (List.length_filter_le _ _)

theorem mem_of_mem_firstsBy {key : α → κ} {a : α} {l : List α}
    (h : a ∈ firstsBy key l) : a ∈ l := by
  induction l using firstsBy_induction key with
  | nil => exact h
  | cons b l ih =>
      rw [firstsBy_cons, List.mem_cons] at h
      rcases h with rfl | h
      · exact List.mem_cons_self
      · exact List.mem_cons_of_mem b (List.mem_of_mem_filter (ih h))

/-- First occurrences have pairwise different keys. -/
theorem nodup_map_firstsBy (key : α → κ) (l : List α) :
    ((firstsBy key l).map key).Nodup := by
  induction l using firstsBy_induction key with
  | nil => exact List.nodup_nil
  | cons a l ih =>
      rw [firstsBy_cons, List.map_cons, List.nodup_cons]
      refine ⟨?_, ih⟩
      intro hmem
      obtain ⟨b, hb, hkey⟩ := List.mem_map.mp hmem
      have hne := (List.mem_filter.mp (mem_of_mem_firstsBy hb)).2
      simp [hkey] at hne

/-- A list whose keys differ consists of first occurrences. -/
theorem firstsBy_eq_self {key : α → κ} {l : List α} (h : (l.map key).Nodup) :
    firstsBy key l = l := by
  induction l with
  | nil => rfl
  | cons a l ih =>
      obtain ⟨hnot, hrest⟩ := List.nodup_cons.mp h
      have hfilter : (l.filter fun b => key b ≠ key a) = l := by
        apply List.filter_eq_self.mpr
        intro b hb
        have hne : key b ≠ key a := by
          intro hkey
          exact hnot (List.mem_map.mpr ⟨b, hb, hkey⟩)
        simpa using hne
      rw [firstsBy_cons, hfilter, ih hrest]

/-- The first occurrences in a list stay the first ones in any longer list. -/
theorem firstsBy_append (key : α → κ) (l m : List α) :
    firstsBy key (l ++ m) =
      firstsBy key l ++ firstsBy key (m.filter fun b => key b ∉ l.map key) := by
  induction l using firstsBy_induction key generalizing m with
  | nil => simp
  | cons a l ih =>
      have hfilter : ∀ b, (key b ∉ (l.filter fun b => key b ≠ key a).map key ∧ key b ≠ key a) ↔
          key b ∉ (a :: l).map key := by
        intro b
        by_cases hkey : key b = key a
        · simp [hkey]
        · simp only [List.mem_map, List.mem_filter, List.map_cons, List.mem_cons]
          grind
      rw [List.cons_append, firstsBy_cons, firstsBy_cons, List.filter_append, ih,
        List.filter_filter, List.cons_append]
      simp only [← Bool.decide_and, hfilter]

theorem firstsBy_prefix_append (key : α → κ) (l m : List α) :
    firstsBy key l <+: firstsBy key (l ++ m) := by
  rw [firstsBy_append]
  exact List.prefix_append _ _

/-- Lists that agree in their keys agree in which elements they keep. -/
theorem forall₂_firstsBy {R : α → β → Prop} {key : α → κ} {key' : β → κ}
    (hkey : ∀ {a b}, R a b → key a = key' b) {l : List α} {m : List β}
    (h : List.Forall₂ R l m) : List.Forall₂ R (firstsBy key l) (firstsBy key' m) := by
  induction l using firstsBy_induction key generalizing m with
  | nil =>
      cases h
      exact .nil
  | cons a l ih =>
      obtain ⟨b, m, hab, hlm, rfl⟩ := List.forall₂_cons_left_iff.mp h
      rw [firstsBy_cons, firstsBy_cons]
      refine .cons hab (ih (List.rel_filter ?_ hlm))
      intro a' b' hab'
      simp [hkey hab, hkey hab']

/-- Choosing the first occurrences commutes with a partial map that keeps keys
and, once undefined, stays so. -/
theorem filterMap_firstsBy {key : α → κ} {key' : β → κ} {f : α → Option β}
    (hkey : ∀ {a b}, f a = some b → key' b = key a) {l : List α}
    (hnone : l.Pairwise fun a b => f a = none → f b = none) :
    (firstsBy key l).filterMap f = firstsBy key' (l.filterMap f) := by
  induction l using firstsBy_induction key with
  | nil => rfl
  | cons a l ih =>
      obtain ⟨hhead, hrest⟩ := List.pairwise_cons.mp hnone
      cases hfa : f a with
      | none =>
          have hall : ∀ b ∈ a :: l, f b = none := by
            intro b hb
            rcases List.mem_cons.mp hb with rfl | hb
            · exact hfa
            · exact hhead b hb hfa
          rw [List.filterMap_eq_nil_iff.mpr hall, firstsBy_nil, List.filterMap_eq_nil_iff]
          intro b hb
          exact hall b (mem_of_mem_firstsBy hb)
      | some c =>
          have hfilter : (l.filter fun b => key b ≠ key a).filterMap f =
              (l.filterMap f).filter fun d => key' d ≠ key' c := by
            rw [List.filterMap_filter, List.filter_filterMap]
            congr 1
            funext b
            cases hfb : f b with
            | none => simp
            | some d => simp [Option.filter, hkey hfa, hkey hfb]
          rw [firstsBy_cons, List.filterMap_cons_some hfa, List.filterMap_cons_some hfa,
            firstsBy_cons, ih (hrest.filter _), hfilter]

/-- Choosing the first occurrences commutes with a map that keeps keys. -/
theorem firstsBy_map (key : β → κ) (f : α → β) (l : List α) :
    firstsBy key (l.map f) = (firstsBy (key ∘ f) l).map f := by
  have hkey : ∀ {a b}, (some ∘ f) a = some b → key b = (key ∘ f) a := by
    intro a b hab
    cases hab
    rfl
  rw [← List.filterMap_eq_map, filterMap_firstsBy hkey]
  exact List.pairwise_of_forall fun a b hnone => by cases hnone

/-! ## Searching by key -/

/-- A search by key among first occurrences finds what it finds in the whole list. -/
theorem find?_firstsBy (key : α → κ) (k : κ) (l : List α) :
    (firstsBy key l).find? (fun a => key a = k) = l.find? fun a => key a = k := by
  induction l using firstsBy_induction key with
  | nil => rfl
  | cons a l ih =>
      rw [firstsBy_cons, List.find?_cons, List.find?_cons, ih]
      by_cases ha : key a = k
      · simp [ha]
      · have hpass : ∀ b, (key b ≠ key a ∧ key b = k) ↔ key b = k := by
          intro b
          exact and_iff_right_of_imp fun hb hba => ha (hba.symm.trans hb)
        simp only [ha, decide_false, List.find?_filter, decide_eq_true_eq, hpass]

/-- An element is a first occurrence exactly if a search for its key finds it. -/
theorem mem_firstsBy_iff {key : α → κ} {a : α} {l : List α} :
    a ∈ firstsBy key l ↔ l.find? (fun b => key b = key a) = some a := by
  constructor
  · intro ha
    have hkeys := nodup_map_firstsBy key l
    rw [← find?_firstsBy]
    cases hfind : (firstsBy key l).find? fun b => key b = key a with
    | none => simpa using List.find?_eq_none.mp hfind a ha
    | some b =>
        have hkey : key b = key a := by simpa using List.find?_some hfind
        rw [List.inj_on_of_nodup_map hkeys (List.mem_of_find?_eq_some hfind) ha hkey]
  · intro hfind
    rw [← find?_firstsBy] at hfind
    exact List.mem_of_find?_eq_some hfind

/-- Where no key occurs in two blocks, the first occurrences in a list of blocks are
those in the blocks. -/
theorem mem_firstsBy_flatMap {key : α → κ} {f : ι → List α} {l : List ι}
    (h : ∀ i ∈ l, ∀ j ∈ l, ∀ a ∈ f i, ∀ b ∈ f j, key a = key b → i = j) {a : α} :
    a ∈ firstsBy key (l.flatMap f) ↔ ∃ i ∈ l, a ∈ firstsBy key (f i) := by
  simp only [mem_firstsBy_iff, List.find?_flatMap]
  constructor
  · intro hfind
    obtain ⟨i, hi, hfound⟩ := List.exists_of_findSome?_eq_some hfind
    exact ⟨i, hi, hfound⟩
  · rintro ⟨i, hi, hfound⟩
    have ha := List.mem_of_find?_eq_some hfound
    -- No other block answers a search for the key.
    have hother : ∀ j ∈ l, ∀ b, (f j).find? (fun b => key b = key a) = some b → b = a := by
      intro j hj b hb
      have hkey : key b = key a := by simpa using List.find?_some hb
      have hij := h j hj i hi b (List.mem_of_find?_eq_some hb) a ha hkey
      rw [hij, hfound] at hb
      exact (Option.some.inj hb).symm
    cases hfind : l.findSome? fun j => (f j).find? fun b => key b = key a with
    | none =>
        rw [List.findSome?_eq_none_iff] at hfind
        rw [hfind i hi] at hfound
        cases hfound
    | some b =>
        obtain ⟨j, hj, hb⟩ := List.exists_of_findSome?_eq_some hfind
        rw [hother j hj b hb]

/-- A search by key commutes with a partial map that keeps keys and, once undefined,
stays so. -/
theorem find?_filterMap_of_key {key : α → κ} {key' : β → κ} {f : α → Option β}
    (hkey : ∀ {a b}, f a = some b → key' b = key a) {l : List α}
    (hnone : l.Pairwise fun a b => f a = none → f b = none) (k : κ) :
    (l.filterMap f).find? (fun b => key' b = k) = (l.find? fun a => key a = k).bind f := by
  induction l with
  | nil => rfl
  | cons a l ih =>
      obtain ⟨hhead, hrest⟩ := List.pairwise_cons.mp hnone
      rw [List.find?_cons]
      cases hfa : f a with
      | none =>
          have hall : l.filterMap f = [] :=
            List.filterMap_eq_nil_iff.mpr fun b hb => hhead b hb hfa
          have hlater : (l.find? fun a => key a = k).bind f = none := by
            rw [← ih hrest, hall, List.find?_nil]
          rw [List.filterMap_cons_none hfa, hall, List.find?_nil]
          by_cases ha : key a = k
          · simp [ha, hfa]
          · simp [ha, hlater]
      | some c =>
          rw [List.filterMap_cons_some hfa, List.find?_cons, hkey hfa]
          by_cases ha : key a = k
          · simp [ha, hfa]
          · simp [ha, ih hrest]

/-- Where keys differ, at most one element has a given key. -/
theorem filter_key_eq_toList_find? {key : α → κ} {l : List α} (h : (l.map key).Nodup) (k : κ) :
    (l.filter fun a => key a = k) = (l.find? fun a => key a = k).toList := by
  induction l with
  | nil => rfl
  | cons a l ih =>
      obtain ⟨hnot, hrest⟩ := List.nodup_cons.mp h
      by_cases ha : key a = k
      · have hnone : (l.filter fun b => key b = k) = [] := by
          rw [List.filter_eq_nil_iff]
          intro b hb hkey
          have hmem : key b ∈ l.map key := List.mem_map_of_mem hb
          rw [of_decide_eq_true hkey, ← ha] at hmem
          exact hnot hmem
        simp [ha, hnone]
      · simp [ha, ih hrest]

/-! ## Appending what is new -/

/-- Appends an element, unless one with the same key is there already. -/
def appendNew (key : α → κ) (l : List α) (a : α) : List α :=
  if key a ∈ l.map key then l else l ++ [a]

/-- Adding elements one by one appends the first occurrences of new keys. -/
theorem foldl_appendNew (key : α → κ) (l m : List α) :
    m.foldl (appendNew key) l = l ++ firstsBy key (m.filter fun b => key b ∉ l.map key) := by
  induction m generalizing l with
  | nil => simp
  | cons a m ih =>
      rw [List.foldl_cons, ih]
      by_cases ha : key a ∈ l.map key
      · simp only [appendNew, if_pos ha]
        rw [List.filter_cons_of_neg (by simpa using ha)]
      · have hfilter : ∀ b, key b ∉ (l ++ [a]).map key ↔ key b ∉ l.map key ∧ key b ≠ key a := by
          intro b
          simp
        simp only [appendNew, if_neg ha]
        rw [List.filter_cons_of_pos (by simpa using ha), firstsBy_cons, List.filter_filter,
          List.append_assoc, List.singleton_append]
        simp only [hfilter, Bool.decide_and, Bool.and_comm]

theorem foldl_appendNew_nil (key : α → κ) (m : List α) :
    m.foldl (appendNew key) [] = firstsBy key m := by
  rw [foldl_appendNew]
  simp

/-- The keys after adding elements are the keys before and theirs. -/
theorem mem_keys_foldl_appendNew {key : α → κ} {l m : List α} {k : κ} :
    k ∈ (m.foldl (appendNew key) l).map key ↔ k ∈ l.map key ∨ k ∈ m.map key := by
  induction m generalizing l with
  | nil => simp
  | cons a m ih =>
      rw [List.foldl_cons, ih, appendNew]
      split
      next ha =>
        rw [List.map_cons, List.mem_cons]
        constructor
        · exact Or.imp_right Or.inr
        · rintro (hk | rfl | hk)
          · exact Or.inl hk
          · exact Or.inl ha
          · exact Or.inr hk
      next => simp [or_assoc]

/-- Elements whose keys are all there already add nothing. -/
theorem foldl_appendNew_eq_self {key : α → κ} {l m : List α}
    (h : ∀ a ∈ m, key a ∈ l.map key) : m.foldl (appendNew key) l = l := by
  have hnone : (m.filter fun a => key a ∉ l.map key) = [] := by
    rw [List.filter_eq_nil_iff]
    intro a ha
    simpa using h a ha
  rw [foldl_appendNew, hnone, firstsBy_nil, List.append_nil]

end FirstOccurrences

/-! ## Class sets and relationship logs -/

namespace ClassSet

/-- Inserts names one after the other. -/
def insertAll (s : ClassSet) (ns : List ClassName) : ClassSet :=
  ns.foldl insert s

theorem insertAll_append (s : ClassSet) (ns ms : List ClassName) :
    s.insertAll (ns ++ ms) = (s.insertAll ns).insertAll ms :=
  List.foldl_append

theorem names_insertAll (s : ClassSet) (ns : List ClassName) :
    (s.insertAll ns).names = ns.foldl (appendNew id) s.names := by
  induction ns generalizing s with
  | nil => rfl
  | cons n ns ih =>
      rw [insertAll, List.foldl_cons, List.foldl_cons, ← insertAll, ih, names_insert, appendNew,
        List.map_id, id]

theorem mem_names_insertAll {s : ClassSet} {ns : List ClassName} {n : ClassName} :
    n ∈ (s.insertAll ns).names ↔ n ∈ s.names ∨ n ∈ ns := by
  have hkeys : n ∈ (ns.foldl (appendNew id) s.names).map id ↔
      n ∈ s.names.map id ∨ n ∈ ns.map id := mem_keys_foldl_appendNew
  rwa [← names_insertAll, List.map_id, List.map_id, List.map_id] at hkeys

/-- Names that are all there already change nothing. -/
theorem insertAll_eq_self {s : ClassSet} {ns : List ClassName} (h : ∀ n ∈ ns, n ∈ s.names) :
    s.insertAll ns = s := by
  have hnames : (s.insertAll ns).names = s.names := by
    rw [names_insertAll]
    exact foldl_appendNew_eq_self (by simpa using h)
  obtain ⟨names⟩ := s
  exact congrArg ClassSet.mk hnames

end ClassSet

namespace RelationshipLog

/-- Of the relationships that are no loops, a log gains the new ones. -/
theorem entries_pushAll (l : RelationshipLog) (rs : List Relationship) :
    (l.pushAll rs).entries =
      (rs.filter fun r => r.source ≠ r.target).foldl (appendNew id) l.entries := by
  induction rs generalizing l with
  | nil => rfl
  | cons r rs ih =>
      rw [pushAll_cons, ih, entries_push]
      by_cases hloop : r.source = r.target
      · rw [List.filter_cons_of_neg (by simpa using hloop), if_neg (fun h => h.1 hloop)]
      · rw [List.filter_cons_of_pos (by simpa using hloop), List.foldl_cons, appendNew,
          List.map_id, id]
        by_cases hmem : r ∈ l.entries <;> simp [hloop, hmem]

theorem mem_entries_pushAll {l : RelationshipLog} {rs : List Relationship} {r : Relationship} :
    r ∈ (l.pushAll rs).entries ↔ r ∈ l.entries ∨ r ∈ rs ∧ r.source ≠ r.target := by
  have hkeys : r ∈ ((rs.filter fun r => r.source ≠ r.target).foldl (appendNew id) l.entries).map id ↔
      r ∈ l.entries.map id ∨ r ∈ (rs.filter fun r => r.source ≠ r.target).map id :=
    mem_keys_foldl_appendNew
  rwa [← entries_pushAll, List.map_id, List.map_id, List.map_id, List.mem_filter,
    decide_eq_true_eq] at hkeys

/-- Relationships that are loops or there already change nothing. -/
theorem pushAll_eq_self {l : RelationshipLog} {rs : List Relationship}
    (h : ∀ r ∈ rs, r.source ≠ r.target → r ∈ l.entries) : l.pushAll rs = l := by
  have hentries : (l.pushAll rs).entries = l.entries := by
    rw [entries_pushAll]
    apply foldl_appendNew_eq_self
    intro r hr
    obtain ⟨hr, hne⟩ := List.mem_filter.mp hr
    rw [List.map_id]
    exact h r hr (of_decide_eq_true hne)
  obtain ⟨entries⟩ := l
  exact congrArg RelationshipLog.mk hentries

/-- Relationships that were pushed change nothing when they are pushed again. -/
theorem pushAll_pushAll (l : RelationshipLog) (rs : List Relationship) :
    (l.pushAll rs).pushAll rs = l.pushAll rs :=
  pushAll_eq_self fun _ hr hne => mem_entries_pushAll.mpr (Or.inr ⟨hr, hne⟩)

end RelationshipLog

end ClassDiagram
