import ClassDiagram.Json.Reader

/-!
# Strings of JSON texts

Reading the characters of a string up to its closing quote.  Escapes by code
number are UTF-16 units: two of them form one character beyond the first
65536, and half of such a pair is refused.

Main results:

- `length_lt_of_readEscape`: an escape takes something off the text, so reading
  a string ends.
-/

namespace ClassDiagram.Json

open Text

/-! ## Escapes -/

/-- The character that a short escape stands for. -/
def shortEscape? : Char → Option Char
  | '"' => some '"'
  | '\\' => some '\\'
  | '/' => some '/'
  | 'b' => some '\x08'
  | 'f' => some '\x0c'
  | 'n' => some '\n'
  | 'r' => some '\r'
  | 't' => some '\t'
  | _ => none

/-- The value of a hexadecimal digit of either case. -/
def hexValue? (c : Char) : Option Nat :=
  if c.isDigit then some (c.toNat - '0'.toNat)
  else if 'a' ≤ c ∧ c ≤ 'f' then some (c.toNat - 'a'.toNat + 10)
  else if 'A' ≤ c ∧ c ≤ 'F' then some (c.toNat - 'A'.toNat + 10)
  else none

/-- The number that four hexadecimal digits at the front of a text spell. -/
def fourHex? : List Char → Option (Nat × List Char)
  | a :: b :: c :: d :: cs => do
      let a ← hexValue? a
      let b ← hexValue? b
      let c ← hexValue? c
      let d ← hexValue? d
      return (((a * 16 + b) * 16 + c) * 16 + d, cs)
  | _ => none

/-- Reads four hexadecimal digits.  Four bytes are taken before they are
looked at. -/
def readUnit (left : List Char) : Except Fault (Nat × List Char) :=
  match fourHex? left with
  | some found => .ok found
  | none =>
      if byteLength left < 4 then .error ⟨.endOfString, 0⟩
      else .error ⟨.invalidEscape, byteLength left - 4⟩

/-- Whether a UTF-16 unit is the first half of a pair. -/
def isLead (unit : Nat) : Bool :=
  decide (0xd800 ≤ unit) && decide (unit ≤ 0xdbff)

/-- Whether a UTF-16 unit is the second half of a pair. -/
def isTrail (unit : Nat) : Bool :=
  decide (0xdc00 ≤ unit) && decide (unit ≤ 0xdfff)

/-- The character that a pair of UTF-16 units stands for. -/
def pairChar (lead trail : Nat) : Char :=
  Char.ofNat (0x10000 + (lead - 0xd800) * 0x400 + (trail - 0xdc00))

/-- Reads the second half of a pair, given the first. -/
def readTrail (lead : Nat) (left : List Char) : Except Fault (Char × List Char) :=
  match left with
  | [] => .error (.before .endOfString left)
  | '\\' :: [] => .error (.before .endOfString [])
  | '\\' :: 'u' :: cs => do
      let (trail, rest) ← readUnit cs
      if isTrail trail then return (pairChar lead trail, rest)
      else throw (.before .loneSurrogate rest)
  | '\\' :: cs => .error (.at .brokenSurrogatePair cs)
  | cs => .error (.at .brokenSurrogatePair cs)

/-- Reads an escape by code number, after the letter that marks it. -/
def readCodeEscape (left : List Char) : Except Fault (Char × List Char) := do
  let (unit, rest) ← readUnit left
  if isTrail unit then throw (.before .loneSurrogate rest)
  else if isLead unit then readTrail unit rest
  else return (Char.ofNat unit, rest)

/-- Reads an escape, after its backslash. -/
def readEscape (left : List Char) : Except Fault (Char × List Char) :=
  match left with
  | [] => .error (.before .endOfString left)
  | 'u' :: cs => readCodeEscape cs
  | c :: cs =>
      match shortEscape? c with
      | some meant => .ok (meant, cs)
      | none => .error (.at .invalidEscape left)

/-- Passes over an escape, after its backslash, whatever it stands for. -/
def skipEscape (left : List Char) : Except Fault (List Char) :=
  match left with
  | [] => .error (.before .endOfString left)
  | 'u' :: cs => (readUnit cs).map (·.2)
  | c :: cs => if (shortEscape? c).isSome then .ok cs else .error (.at .invalidEscape left)

/-! ## Escapes shorten the text -/

theorem length_lt_of_readUnit {left rest : List Char} {unit : Nat}
    (h : readUnit left = .ok (unit, rest)) : rest.length < left.length := by
  unfold readUnit at h
  split at h
  next found hf =>
    cases h
    unfold fourHex? at hf
    split at hf
    · simp only [bind, Option.bind_eq_some_iff, pure, Option.some.injEq, Prod.mk.injEq] at hf
      obtain ⟨_, _, _, _, _, _, _, _, _, rfl⟩ := hf
      simp only [List.length_cons]
      omega
    · cases hf
  next => split at h <;> cases h

theorem length_lt_of_readTrail {lead : Nat} {left rest : List Char} {c : Char}
    (h : readTrail lead left = .ok (c, rest)) : rest.length < left.length := by
  unfold readTrail at h
  split at h
  · cases h
  · cases h
  next cs =>
    cases hu : readUnit cs with
    | error e => rw [hu] at h; cases h
    | ok found =>
      obtain ⟨trail, rest'⟩ := found
      have := length_lt_of_readUnit hu
      rw [hu] at h
      simp only [bind, Except.bind, pure, Except.pure, throw, throwThe, MonadExceptOf.throw] at h
      split at h
      · simp only [Except.ok.injEq, Prod.mk.injEq] at h
        obtain ⟨-, rfl⟩ := h
        simp only [List.length_cons]
        omega
      · cases h
  · cases h
  · cases h

theorem length_lt_of_readEscape {left rest : List Char} {c : Char}
    (h : readEscape left = .ok (c, rest)) : rest.length < left.length := by
  unfold readEscape at h
  split at h
  · cases h
  next cs =>
    unfold readCodeEscape at h
    cases hu : readUnit cs with
    | error e => rw [hu] at h; cases h
    | ok found =>
      obtain ⟨unit, rest'⟩ := found
      have h₁ := length_lt_of_readUnit hu
      rw [hu] at h
      simp only [bind, Except.bind, pure, Except.pure, throw, throwThe, MonadExceptOf.throw] at h
      split at h
      · cases h
      · split at h
        · have h₂ := length_lt_of_readTrail h
          simp only [List.length_cons]
          omega
        · simp only [Except.ok.injEq, Prod.mk.injEq] at h
          obtain ⟨-, rfl⟩ := h
          simp only [List.length_cons]
          omega
  next =>
    split at h
    · cases h
      simp
    · cases h

theorem length_lt_of_skipEscape {left rest : List Char}
    (h : skipEscape left = .ok rest) : rest.length < left.length := by
  unfold skipEscape at h
  split at h
  · cases h
  next cs =>
    cases hu : readUnit cs with
    | error e => rw [hu] at h; cases h
    | ok found =>
      obtain ⟨unit, rest'⟩ := found
      have := length_lt_of_readUnit hu
      rw [hu] at h
      cases h
      simp only [List.length_cons]
      omega
  next =>
    split at h
    · cases h
      simp
    · cases h

/-! ## Strings -/

/-- Reads the characters of a string, after its opening quote. -/
def readChars (left : List Char) : Except Fault (List Char × List Char) :=
  match left with
  | [] => .error (.before .endOfString left)
  | '"' :: cs => .ok ([], cs)
  | '\\' :: cs =>
      match _read : readEscape cs with
      | .error fault => .error fault
      | .ok (c, rest) => (readChars rest).map fun (chars, left) => (c :: chars, left)
  | c :: cs =>
      if c.toNat < 0x20 then .error (.at .controlCharacter left)
      else (readChars cs).map fun (chars, left) => (c :: chars, left)
termination_by left.length
decreasing_by
  · have := length_lt_of_readEscape _read
    simp only [List.length_cons]
    omega
  · simp

/-- Reads a string, after its opening quote. -/
def readText : Reader String := fun left =>
  (readChars left).map fun (chars, left) => (String.ofList chars, left)

/-- Passes over a string, after its opening quote. -/
def skipText (left : List Char) : Except Fault (List Char) :=
  match left with
  | [] => .error (.before .endOfString left)
  | '"' :: cs => .ok cs
  | '\\' :: cs =>
      match _skip : skipEscape cs with
      | .error fault => .error fault
      | .ok rest => skipText rest
  | c :: cs => if c.toNat < 0x20 then .error (.before .controlCharacter left) else skipText cs
termination_by left.length
decreasing_by
  · have := length_lt_of_skipEscape _skip
    simp only [List.length_cons]
    omega
  · simp

end ClassDiagram.Json
