import ClassDiagram.Drawing.Shapes

/-!
# The commands of a path

The text of a coordinate holds digits, a sign, a point and the letters of the
two values that are no numbers, and so neither a blank nor a comma nor a
character of markup.  So the commands that draw a line tell the points that it
visits: split at the blanks, and each point at its comma, they give the
coordinates back in order.

Main results:

- `isCoordinatePart_of_mem`: what the text of a coordinate is made of.
- `readPath?_pathCommands`: the commands of a line are read as its points.
-/

namespace ClassDiagram

/-! ## Texts of coordinates -/

/-- Whether the character may stand in the text of a coordinate. -/
def isCoordinatePart (c : Char) : Bool :=
  c.isDigit || c ∈ ['-', '.', 'N', 'a', 'i', 'n', 'f']

theorem Decimal.mem_positional {keepsFraction : Bool} {digits : List Char} {point : Int} {c : Char}
    (h : c ∈ positional keepsFraction digits point) : c ∈ digits ∨ c = '0' ∨ c = '.' := by
  unfold positional at h
  split at h
  · simp only [List.cons_append, List.mem_cons, List.mem_append, List.mem_replicate] at h
    grind
  split at h
  · rcases List.mem_append.1 h with h | h
    · exact .inl (List.mem_of_mem_take h)
    · exact (List.mem_cons.1 h).elim (.inr ∘ .inr) (.inl ∘ List.mem_of_mem_drop)
  · simp only [List.mem_append, List.mem_replicate] at h
    grind

theorem isCoordinatePart_of_mem_positional {keepsFraction : Bool} {digits : List Char}
    {point : Int} {c : Char} (isDigit : ∀ d ∈ digits, d.isDigit)
    (h : c ∈ Decimal.positional keepsFraction digits point) : isCoordinatePart c := by
  rcases Decimal.mem_positional h with h | rfl | rfl
  · simp [isCoordinatePart, isDigit c h]
  · decide
  · decide

theorem isCoordinatePart_of_mem_write {d : Decimal.Dec} {c : Char}
    (h : c ∈ coordinateStyle.write d) : isCoordinatePart c := by
  refine isCoordinatePart_of_mem_positional (fun e he => ?_) h
  exact Nat.isDigit_of_mem_toDigits (by decide) (by decide) he

theorem isCoordinatePart_of_mem {x : Float} {c : Char} (h : c ∈ coordinate x) :
    isCoordinatePart c := by
  unfold coordinate Decimal.Style.writeFloat at h
  split at h
  · exact List.all_eq_true.1 (by decide : ['N', 'a', 'N'].all isCoordinatePart) c h
  rcases List.mem_append.1 h with sign | size
  · split at sign
    · exact List.all_eq_true.1 (by decide : ['-'].all isCoordinatePart) c sign
    · exact absurd sign List.not_mem_nil
  split at size
  · exact List.all_eq_true.1 (by decide : ['i', 'n', 'f'].all isCoordinatePart) c size
  split at size
  · exact isCoordinatePart_of_mem_positional (by simp) size
  · exact isCoordinatePart_of_mem_write size

theorem Point.not_mem_write {p : Point} {c : Char} (h : isCoordinatePart c = false)
    (ne : c ≠ ',') : c ∉ p.write := by
  intro mem
  rcases List.mem_append.1 mem with mem | mem
  · simp [isCoordinatePart_of_mem mem] at h
  rcases List.mem_cons.1 mem with rfl | mem
  · exact ne rfl
  · simp [isCoordinatePart_of_mem mem] at h

/-! ## Reading commands -/

/-- The coordinates of the point of a command: its letter, the coordinate to the
right, a comma and the coordinate downwards. -/
def readCommand? (letter : Char) : List Char → Option (List Char × List Char)
  | [] => none
  | c :: text =>
    match text.splitOn ',' with
    | [x, y] => if c = letter then some (x, y) else none
    | _ => none

/-- The coordinates of the points that a path visits, in order: it moves to the
first and draws a line to each of the others. -/
def readPath? (text : List Char) : Option (List (List Char × List Char)) :=
  match text.splitOn ' ' with
  | [] => none
  | first :: others => do
    let start ← readCommand? 'M' first
    let stops ← others.mapM (readCommand? 'L')
    return start :: stops

/-- The texts of the coordinates of a point. -/
def Point.coordinates (p : Point) : List Char × List Char :=
  (coordinate p.x, coordinate p.y)

theorem splitOn_write (p : Point) : p.write.splitOn ',' = [coordinate p.x, coordinate p.y] := by
  have free : ∀ text ∈ [coordinate p.x, coordinate p.y], ',' ∉ text := by
    rintro text mem comma
    simp only [List.mem_cons, List.not_mem_nil, or_false] at mem
    rcases mem with rfl | rfl <;> exact absurd (isCoordinatePart_of_mem comma) (by decide)
  simpa [Point.write, List.intercalate] using List.splitOn_intercalate ',' free (by simp)

theorem readCommand?_write (letter : Char) (p : Point) :
    readCommand? letter (letter :: p.write) = some p.coordinates := by
  simp [readCommand?, splitOn_write, Point.coordinates]

theorem pathCommands_eq_intercalate (p : Point) (ps : List Point) :
    pathCommands (p :: ps) =
      [' '].intercalate (('M' :: p.write) :: ps.map fun q => 'L' :: q.write) := by
  rw [pathCommands]
  generalize 'M' :: p.write = first
  induction ps generalizing first with
  | nil => simp [List.intercalate]
  | cons q ps ih =>
    rw [List.map_cons, List.intercalate_cons_cons, ← ih ('L' :: q.write)]
    simp

/-- The commands that draw a line are read as the points that it visits. -/
theorem readPath?_pathCommands (p : Point) (ps : List Point) :
    readPath? (pathCommands (p :: ps)) = some ((p :: ps).map Point.coordinates) := by
  have free : ∀ text ∈ ('M' :: p.write) :: ps.map fun q => 'L' :: q.write, ' ' ∉ text := by
    have write (q : Point) : ' ' ∉ q.write := Point.not_mem_write (by decide) (by decide)
    simp [write]
  have command : (readCommand? 'L' ∘ fun q : Point => 'L' :: q.write) =
      fun q => pure q.coordinates := funext (readCommand?_write 'L')
  have stops : (ps.map fun q => 'L' :: q.write).mapM (readCommand? 'L') =
      some (ps.map Point.coordinates) := by
    rw [List.mapM_map, command, List.mapM_pure]
    rfl
  rw [readPath?, pathCommands_eq_intercalate, List.splitOn_intercalate ' ' free (by simp)]
  simp [readCommand?_write, stops]

end ClassDiagram
