import ClassDiagram.Graph.Basic

/-!
# Widths of boxes

The width of a box is computed in words of 32 bits, where every step stops at the greatest
word.  A number that has stopped there stays there: multiplying it, adding to it or taking
a maximum with it gives the greatest word again.  So it makes no difference whether each
step is capped or only the exact result, and the width is that of exact arithmetic, capped
once.

Main results:

- Theorems `saturatingMul_saturate`, `saturatingAdd_saturate` and `max_saturate`: a cap on
  an operand does not show in the capped result.
- Theorem `widthForLength_eq_saturate`: the width is the exact one, capped once.
- Theorem `Graph.widths_exact`: widths of classes and of the boxes of a graph.
-/

namespace ClassDiagram

open Text

/-! ## Capped arithmetic -/

theorem saturate_mono {n m : Nat} (h : n ≤ m) : saturate n ≤ saturate m := by
  rw [UInt32.le_iff_toNat_le, toNat_saturate, toNat_saturate]
  omega

/-- A word is not above the cap. -/
theorem saturate_toNat (a : UInt32) : saturate a.toNat = a := by
  apply UInt32.toNat_inj.mp
  have hlt := a.toNat_lt
  rw [toNat_saturate]
  omega

theorem toNat_max (a b : UInt32) : (max a b).toNat = max a.toNat b.toNat := by
  change (if a ≤ b then b else a).toNat = _
  split
  next h =>
    rw [UInt32.le_iff_toNat_le] at h
    omega
  next h =>
    rw [UInt32.le_iff_toNat_le] at h
    omega

/-- A cap on one factor does not show in the capped product, unless the other factor is
zero. -/
theorem saturatingMul_saturate (n : Nat) {k : UInt32} (hk : 0 < k.toNat) :
    saturatingMul (saturate n) k = saturate (n * k.toNat) := by
  apply UInt32.toNat_inj.mp
  rw [saturatingMul, toNat_saturate, toNat_saturate, toNat_saturate]
  by_cases hle : n ≤ 0xffffffff
  · rw [Nat.min_eq_left hle]
  · -- Both products are at least the cap.
    have hcap : 0xffffffff ≤ 0xffffffff * k.toNat := Nat.le_mul_of_pos_right _ hk
    have hprod : 0xffffffff * k.toNat ≤ n * k.toNat := Nat.mul_le_mul_right _ (by omega)
    rw [Nat.min_eq_right (by omega : 0xffffffff ≤ n)]
    omega

/-- A cap on one summand does not show in the capped sum. -/
theorem saturatingAdd_saturate (n : Nat) (k : UInt32) :
    saturatingAdd (saturate n) k = saturate (n + k.toNat) := by
  apply UInt32.toNat_inj.mp
  rw [saturatingAdd, toNat_saturate, toNat_saturate, toNat_saturate]
  omega

/-- The maximum with a capped number is the capped maximum. -/
theorem max_saturate (a : UInt32) (n : Nat) :
    max a (saturate n) = saturate (max a.toNat n) := by
  apply UInt32.toNat_inj.mp
  have hlt := a.toNat_lt
  rw [toNat_max, toNat_saturate, toNat_saturate]
  omega

/-! ## Widths -/

/-- The width for a name is the exact one, capped once. -/
theorem widthForLength_eq_saturate (length : Nat) :
    widthForLength length = saturate (max 120 (8 * length + 24)) := by
  calc
    widthForLength length =
        max minNodeWidth
          (saturatingAdd (saturatingMul (saturate length) charWidth) nodePadding) := rfl
    _ = max minNodeWidth (saturatingAdd (saturate (length * 8)) nodePadding) := by
        rw [saturatingMul_saturate length (by decide)]
        rfl
    _ = max minNodeWidth (saturate (length * 8 + 24)) := by
        rw [saturatingAdd_saturate]
        rfl
    _ = saturate (max 120 (8 * length + 24)) := by
        rw [max_saturate, Nat.mul_comm]
        rfl

theorem toNat_widthForLength (length : Nat) :
    (widthForLength length).toNat = min (UInt32.size - 1) (max 120 (8 * length + 24)) := by
  rw [widthForLength_eq_saturate, toNat_saturate]
  exact Nat.min_comm _ _

theorem widthForLength_mono {n m : Nat} (h : n ≤ m) : widthForLength n ≤ widthForLength m := by
  rw [widthForLength_eq_saturate, widthForLength_eq_saturate]
  apply saturate_mono
  omega

theorem minNodeWidth_le_widthForLength (length : Nat) :
    minNodeWidth ≤ widthForLength length := by
  rw [widthForLength_eq_saturate, ← saturate_toNat minNodeWidth]
  apply saturate_mono
  exact Nat.le_max_left 120 _

/-- The cap makes no difference exactly if a word can hold the width. -/
theorem toNat_widthForLength_eq_iff (length : Nat) :
    (widthForLength length).toNat = max 120 (8 * length + 24) ↔
      8 * length + 24 < UInt32.size := by
  rw [toNat_widthForLength, UInt32.size]
  omega

/-- The last length whose width is exact, and the first whose width is capped. -/
example : widthForLength 536870908 = 4294967288 ∧ widthForLength 536870909 = 4294967295 := by
  decide

/-- The width of a class is exact arithmetic on the length of its name, capped at the
greatest word; the cap is met only where a word cannot hold the exact width.  The width is
never below the least one and grows with the length, and in every graph of classes each box
has the width that belongs to its id. -/
theorem Graph.widths_exact :
    (∀ name : ClassName,
      name.nodeWidth.toNat = min (UInt32.size - 1) (max 120 (8 * name.length + 24)) ∧
      (name.nodeWidth.toNat = max 120 (8 * name.length + 24) ↔
        8 * name.length + 24 < UInt32.size) ∧
      120 ≤ name.nodeWidth) ∧
    (∀ name other : ClassName, name.length ≤ other.length →
      name.nodeWidth ≤ other.nodeWidth) ∧
    ∀ (classes : ClassSet) (relationships : List Relationship),
      ∀ node ∈ (Graph.ofClasses classes relationships).children,
        node.width.toNat = min (UInt32.size - 1) (max 120 (8 * node.id.length + 24)) := by
  refine ⟨?_, ?_, ?_⟩
  · intro name
    exact ⟨toNat_widthForLength name.length, toNat_widthForLength_eq_iff name.length,
      minNodeWidth_le_widthForLength name.length⟩
  · intro name other hle
    exact widthForLength_mono hle
  · intro classes relationships node hnode
    rw [Graph.width_ofClasses hnode, toNat_widthForLength, String.length_toList]

/-! ## Names of any length -/

/-- A name of one letter and the given number of further ones. -/
def ClassName.ofLetters (more : Nat) : ClassName where
  letters := 'x' :: List.replicate more 'x'
  isName_letters := by
    have hletter : isNameStart 'x' = true ∧ isNameChar 'x' = true := by decide
    simp [isName, hletter]

theorem ClassName.length_ofLetters (more : Nat) : (ofLetters more).length = more + 1 := by
  simp [ofLetters, ClassName.length]

theorem GraphNode.length_id_ofClass (name : ClassName) :
    (GraphNode.ofClass name).id.length = name.length := by
  simp [GraphNode.ofClass, ClassName.toString, ClassName.length]

theorem Graph.ofClass_mem_singleton (name : ClassName) :
    GraphNode.ofClass name ∈ (Graph.ofClasses ⟨[name]⟩ []).children := by
  simp [Graph.ofClasses]

/-- The box for a name with more letters than a word can count. -/
theorem Graph.widths_exact_ofLetters :
    (ClassName.ofLetters 11).length ≤ (ClassName.ofLetters UInt32.size).length ∧
      (ClassName.ofLetters 11).nodeWidth ≤ (ClassName.ofLetters UInt32.size).nodeWidth ∧
      GraphNode.ofClass (ClassName.ofLetters UInt32.size) ∈
        (Graph.ofClasses ⟨[ClassName.ofLetters UInt32.size]⟩ []).children ∧
      (GraphNode.ofClass (ClassName.ofLetters UInt32.size)).width.toNat = UInt32.size - 1 := by
  have hle : (ClassName.ofLetters 11).length ≤ (ClassName.ofLetters UInt32.size).length := by
    rw [ClassName.length_ofLetters, ClassName.length_ofLetters, UInt32.size]
    omega
  have hnode := Graph.ofClass_mem_singleton (ClassName.ofLetters UInt32.size)
  refine ⟨hle, Graph.widths_exact.2.1 _ _ hle, hnode, ?_⟩
  rw [Graph.widths_exact.2.2 _ _ _ hnode, GraphNode.length_id_ofClass,
    ClassName.length_ofLetters, UInt32.size]
  omega

end ClassDiagram
