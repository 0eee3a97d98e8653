import ClassDiagram.Event

/-!
# Buffers made of source units

A scan reads one buffer: the texts of all readable units in order, each followed
by a separator.  A unit that cannot be read adds nothing but an event.

Main results:

- `bufferOfTexts_eq_flatMap` and `bufferOfTexts_append`: where all texts are at
  hand, their numbers play no part in the buffer, and it can be made by parts.
-/

namespace ClassDiagram

/-- The character behind every unit in a buffer. -/
def unitSeparator : Char := '\n'

/-- A source unit: where it lives, and its text or why that cannot be read. -/
structure SourceUnit where
  /-- The place of the unit, in words. -/
  location : String
  /-- The text, or the reason why there is none. -/
  text : Except String String

namespace SourceUnit

/-- Units that are located by their position in the list. -/
def numbered (texts : List (Except String String)) : List SourceUnit :=
  texts.zipIdx.map fun (text, number) => ⟨Nat.repr number, text⟩

/-- The unit's part of a buffer. -/
def contribution (u : SourceUnit) : List Char :=
  match u.text with
  | .ok text => text.toList ++ [unitSeparator]
  | .error _ => []

/-- The event of leaving the unit out, if it cannot be read. -/
def event? (u : SourceUnit) : Option Event :=
  match u.text with
  | .ok _ => none
  | .error reason => some (.unitSkipped u.location reason)

end SourceUnit

/-- The buffer of source units. -/
def buffer (units : List SourceUnit) : List Char :=
  units.flatMap SourceUnit.contribution

/-- The events of making the buffer. -/
def bufferEvents (units : List SourceUnit) : List Event :=
  units.filterMap SourceUnit.event?

/-- The buffer of texts that are all at hand. -/
def bufferOfTexts (texts : List String) : List Char :=
  buffer (SourceUnit.numbered (texts.map .ok))

theorem bufferOfTexts_eq_flatMap (texts : List String) :
    bufferOfTexts texts = texts.flatMap fun text => text.toList ++ [unitSeparator] := by
  have hnumbers : (SourceUnit.numbered (texts.map .ok)).map SourceUnit.text =
      texts.map .ok := by
    rw [SourceUnit.numbered, List.map_map]
    exact List.zipIdx_map_fst 0 _
  let part : Except String String → List Char := fun text => SourceUnit.contribution ⟨"", text⟩
  calc
    bufferOfTexts texts =
        ((SourceUnit.numbered (texts.map .ok)).map SourceUnit.text).flatMap part := by
      rw [List.flatMap_map]
      rfl
    _ = texts.flatMap fun text => text.toList ++ [unitSeparator] := by
      rw [hnumbers, List.flatMap_map]
      rfl

@[simp] theorem bufferOfTexts_nil : bufferOfTexts [] = [] := rfl

theorem bufferOfTexts_cons (text : String) (texts : List String) :
    bufferOfTexts (text :: texts) = text.toList ++ unitSeparator :: bufferOfTexts texts := by
  simp [bufferOfTexts_eq_flatMap]

theorem bufferOfTexts_append (texts texts' : List String) :
    bufferOfTexts (texts ++ texts') = bufferOfTexts texts ++ bufferOfTexts texts' := by
  simp [bufferOfTexts_eq_flatMap]

end ClassDiagram
