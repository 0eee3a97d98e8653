import ClassDiagram.Proofs.WrittenText

/-!
# Passing over what is written

A reader passes over members that its record does not have.  Written strings, and objects of
values that can themselves be passed over, are passed over in full, at whatever depth they
stand, so a record is read back also if such members stand in front of its own.

Main results:

- Theorem `Json.passed_string`: a string is passed over.
- Theorem `Json.passed_object`: an object of values that are passed over is passed over.
- Theorem `Json.Shape.read_writeObject_behind`: a record is read from an object that has
  members of other kinds in front of its own.
-/

namespace ClassDiagram.Json

/-! ## Strings -/

section

variable {c : Char} {left rest : List Char}

theorem skipText_of_skipEscape (h : skipEscape left = .ok rest) :
    skipText ('\\' :: left) = skipText rest := by
  rw [skipText]
  split
  next fault hskip =>
    rw [h] at hskip
    cases hskip
  next rest' hskip =>
    rw [h] at hskip
    cases hskip
    rfl

theorem skipText_plain (hquote : c ≠ '"') (hslash : c ≠ '\\') (hcontrol : ¬ c.toNat < 0x20)
    (left : List Char) : skipText (c :: left) = skipText left := by
  rw [skipText.eq_def]
  split
  next heq => cases heq
  next heq => exact absurd (List.cons.inj heq).1 hquote
  next heq => exact absurd (List.cons.inj heq).1 hslash
  next heq =>
    obtain ⟨rfl, rfl⟩ := List.cons.inj heq
    rw [if_neg hcontrol]

theorem skipEscape_code (hcontrol : c.toNat < 0x20) (rest : List Char) :
    skipEscape ('u' :: '0' :: '0' :: hexDigit (c.toNat / 16) :: hexDigit (c.toNat % 16) :: rest) =
      .ok rest := by
  rw [skipEscape, readUnit_code hcontrol]
  rfl

/-- A character is passed over the way it is written. -/
theorem skipText_escapedChar (c : Char) (left : List Char) :
    skipText (escapedChar c ++ left) = skipText left := by
  unfold escapedChar
  split
  · exact skipText_of_skipEscape rfl
  · exact skipText_of_skipEscape rfl
  · exact skipText_of_skipEscape rfl
  · exact skipText_of_skipEscape rfl
  · exact skipText_of_skipEscape rfl
  · exact skipText_of_skipEscape rfl
  · exact skipText_of_skipEscape rfl
  · split
    next hcontrol => exact skipText_of_skipEscape (skipEscape_code hcontrol left)
    next hcontrol => exact skipText_plain ‹_› ‹_› hcontrol left

theorem skipText_flatMap_escapedChar (cs rest : List Char) :
    skipText (cs.flatMap escapedChar ++ '"' :: rest) = .ok rest := by
  induction cs with
  | nil => rw [List.flatMap_nil, List.nil_append, skipText]
  | cons c cs ih => rw [List.flatMap_cons, List.append_assoc, skipText_escapedChar, ih]

end

/-! ## Values -/

/-- Goes on behind a value: the text is left alone if no frame is open, and otherwise the
rest of the innermost frame is passed over. -/
def skipBehind (fuel : Nat) (frames : List Frame) (rest : List Char) :
    Except Fault (List Char) :=
  if frames.isEmpty then .ok rest else skipRest fuel (.inFrame true) frames rest

/-- The text is that of a value that is passed over in full, inside any frames, in at most
twice as many steps as it has characters. -/
def Passed (text : List Char) : Prop :=
  ∃ cost ≤ 2 * text.length, ∀ fuel frames rest,
    skipRest (cost + fuel) .atValue frames (text ++ rest) = skipBehind fuel frames rest

section

variable {text : List Char} {frames : List Frame} {fuel : Nat}

/-- Before a value its start tells whether it is passed over or opens a frame. -/
theorem skipRest_atValue (left : List Char) :
    skipRest (fuel + 1) .atValue frames left =
      skipStart left >>= fun
        | .passed rest => skipBehind fuel frames rest
        | .opened frame rest => skipRest fuel (.inFrame false) (frame :: frames) rest := rfl

/-- Inside an object the next character ends it or leads on to a key. -/
theorem skipRest_inObject {c : Char} (h : isSpace c = false) (behindValue : Bool)
    (cs : List Char) :
    skipRest (fuel + 1) (.inFrame behindValue) (.object :: frames) (c :: cs) =
      if c = '}' then skipBehind fuel frames cs
      else if !behindValue then skipKey (c :: cs) >>= skipRest fuel .atValue (.object :: frames)
      else if c = ',' then skipKey cs >>= skipRest fuel .atValue (.object :: frames)
      else .error (.at Frame.object.unseparated (c :: cs)) := by
  rw [skipRest, dropSpace_cons h]
  rfl

theorem Passed.skipValue (h : Passed text) (rest : List Char) :
    skipValue (text ++ rest) = .ok ((), rest) := by
  obtain ⟨cost, hcost, hskip⟩ := h
  have hfuel : 2 * (text ++ rest).length + 2 =
      cost + (2 * (text ++ rest).length + 2 - cost) := by
    rw [List.length_append]
    omega
  rw [Json.skipValue, hfuel, hskip]
  rfl

/-- A string is passed over. -/
theorem passed_string (s : String) : Passed (writeString s) := by
  refine ⟨1, ?_, fun fuel frames rest => ?_⟩
  · simp only [writeString, List.length_cons, List.length_append]
    omega
  · have hstart : skipStart (writeString s ++ rest) = .ok (.passed rest) := by
      rw [writeString_append, skipStart, dropSpace_cons (by decide)]
      exact congrArg (Except.map Start.passed) (skipText_flatMap_escapedChar s.toList rest)
    rw [Nat.add_comm, skipRest_atValue, hstart]
    rfl

/-! ## Objects -/

theorem skipKey_writeMember (key : String) (value rest : List Char) :
    skipKey (writeMember key value ++ rest) = .ok (value ++ rest) := by
  rw [writeMember_append, skipKey, dropSpace_cons (by decide)]
  simp only [bind, Except.bind, skipText_flatMap_escapedChar,
    dropSpace_cons (c := ':') (by decide)]

theorem skipRest_brace (behindValue : Bool) (rest : List Char) :
    skipRest (fuel + 1) (.inFrame behindValue) (.object :: frames) ('}' :: rest) =
      skipBehind fuel frames rest := by
  rw [skipRest_inObject (by decide)]
  exact if_pos rfl

/-- Behind the opening of an object the first member is passed over up to its value. -/
theorem skipRest_firstMember (key : String) (value rest : List Char) :
    skipRest (fuel + 1) (.inFrame false) (.object :: frames) (writeMember key value ++ rest) =
      skipRest fuel .atValue (.object :: frames) (value ++ rest) := by
  have hkey := skipKey_writeMember key value rest
  rw [writeMember_append] at hkey ⊢
  rw [skipRest_inObject (by decide), hkey]
  rfl

/-- Behind a value the next member is passed over up to its value. -/
theorem skipRest_nextMember (key : String) (value rest : List Char) :
    skipRest (fuel + 1) (.inFrame true) (.object :: frames)
        (',' :: (writeMember key value ++ rest)) =
      skipRest fuel .atValue (.object :: frames) (value ++ rest) := by
  rw [skipRest_inObject (by decide), skipKey_writeMember]
  rfl

end

namespace Shape

variable {members : List (String × List Char)}

/-- The members behind one of an object are passed over, with the end of the object. -/
theorem exists_skipRest_behindMember (h : ∀ m ∈ members, Passed m.2) :
    ∃ cost ≤ 2 * (behindMember members []).length, ∀ fuel frames rest,
      skipRest (cost + fuel) (.inFrame true) (.object :: frames) (behindMember members rest) =
        skipBehind fuel frames rest := by
  induction members with
  | nil =>
      refine ⟨1, by decide, fun fuel frames rest => ?_⟩
      rw [Nat.add_comm]
      exact skipRest_brace true rest
  | cons member members ih =>
      obtain ⟨key, value⟩ := member
      obtain ⟨cost, hcost, hskip⟩ := h _ List.mem_cons_self
      obtain ⟨costs, hcosts, hskips⟩ := ih fun m hm => h m (List.mem_cons_of_mem _ hm)
      refine ⟨cost + costs + 1, ?_, fun fuel frames rest => ?_⟩
      · simp only [behindMember_cons, writeMember, List.length_cons, List.length_append]
        simp only at hcost
        omega
      · have hfuel : cost + costs + 1 + fuel = cost + (costs + fuel) + 1 := by omega
        rw [behindMember_cons, hfuel, skipRest_nextMember, hskip]
        exact hskips fuel frames rest

/-- The text of an object, its first member in front of the others. -/
theorem writeObject_memberTexts_append (key : String) (value : List Char)
    (members : List (String × List Char)) (rest : List Char) :
    writeObject (memberTexts ((key, value) :: members)) ++ rest =
      '{' :: (writeMember key value ++ behindMember members rest) := by
  rw [writeObject_append, withCommas_memberTexts]

end Shape

open Shape

theorem skipRest_openObject (fuel : Nat) (frames : List Frame) (rest : List Char) :
    skipRest (fuel + 1) .atValue frames ('{' :: rest) =
      skipRest fuel (.inFrame false) (.object :: frames) rest := by
  rw [skipRest_atValue, skipStart, dropSpace_cons (by decide)]
  rfl

/-- An object of values that are passed over is passed over. -/
theorem passed_object {members : List (String × List Char)} (h : ∀ m ∈ members, Passed m.2) :
    Passed (writeObject (memberTexts members)) := by
  cases members with
  | nil =>
      refine ⟨2, by decide, fun fuel frames rest => ?_⟩
      rw [Nat.add_comm]
      exact (skipRest_openObject _ frames _).trans (skipRest_brace false rest)
  | cons member members =>
      obtain ⟨key, value⟩ := member
      obtain ⟨cost, hcost, hskip⟩ := h _ List.mem_cons_self
      obtain ⟨costs, hcosts, hskips⟩ :=
        exists_skipRest_behindMember fun m hm => h m (List.mem_cons_of_mem _ hm)
      refine ⟨cost + costs + 2, ?_, fun fuel frames rest => ?_⟩
      · rw [← List.append_nil (writeObject _), writeObject_memberTexts_append]
        simp only [writeMember, List.length_cons, List.length_append]
        simp only at hcost
        omega
      · have hfuel : cost + costs + 2 + fuel = cost + (costs + fuel) + 1 + 1 := by omega
        rw [writeObject_memberTexts_append, hfuel, skipRest_openObject, skipRest_firstMember,
          hskip]
        exact hskips fuel frames rest

/-! ## Records -/

namespace Shape

variable {α : Type} {shape : Shape α} {key : String} {value rest : List Char}
  {given given' : List String} {record record' : α} {fuel : Nat}
  {others members : List (String × List Char)}

/-- Members that a record does not have, with values that are passed over. -/
def Ignores (shape : Shape α) (others : List (String × List Char)) : Prop :=
  ∀ m ∈ others, shape.fields.find? (·.key == m.1) = none ∧ Passed m.2

/-- Behind the way to its key, a member that the record does not have is passed over. -/
theorem readMembers_of_ignored {first : Bool} {left : List Char}
    (hkey : nextKey first left = .ok (true, writeMember key value ++ rest))
    (hfield : shape.fields.find? (·.key == key) = none) (hvalue : Passed value) :
    shape.readMembers (fuel + 1) first given record left =
      shape.readMembers fuel false given record rest := by
  rw [writeMember_append] at hkey
  rw [readMembers]
  simp only [bind, StateT.bind, Except.bind, hkey, if_true, skipChar, List.drop_succ_cons,
    List.drop_zero, readText_writeString, hfield, readColon_cons, hvalue.skipValue]

/-- Members that the record does not have are passed over, one after the other. -/
theorem readMembers_of_ignores (h : shape.Ignores others) :
    shape.readMembers (others.length + fuel) false given record
        (behindMember (others ++ members) rest) =
      shape.readMembers fuel false given record (behindMember members rest) := by
  induction others with
  | nil => rw [List.length_nil, Nat.zero_add, List.nil_append]
  | cons other others ih =>
      obtain ⟨key, value⟩ := other
      obtain ⟨hfield, hvalue⟩ := h _ List.mem_cons_self
      have hfuel : ((key, value) :: others).length + fuel = others.length + fuel + 1 := by
        rw [List.length_cons]
        omega
      rw [List.cons_append, behindMember_cons, hfuel,
        readMembers_of_ignored (nextKey_comma _ _ _) hfield hvalue]
      exact ih fun m hm => h m (List.mem_cons_of_mem _ hm)

/-- A record is read from an object that has other members in front of its own. -/
theorem read_writeObject_behind (hothers : shape.Ignores others)
    (h : shape.Takes [] shape.blank members given' record')
    (hall : shape.firstMissing? given' = none) (rest : List Char) :
    shape.read (writeObject (memberTexts (others ++ members)) ++ rest) = .ok (record', rest) := by
  cases others with
  | nil => exact read_writeObject h hall rest
  | cons other others =>
      obtain ⟨key, value⟩ := other
      obtain ⟨hfield, hvalue⟩ := hothers _ List.mem_cons_self
      apply read_of_readMembers
      rw [List.cons_append, withCommas_memberTexts,
        readMembers_of_ignored (nextKey_first _ _ _) hfield hvalue]
      -- The fuel is the length of the text, which covers the members passed over and read.
      obtain ⟨fuel, hfuel, hlt⟩ : ∃ fuel,
          (writeMember key value ++ behindMember (others ++ members) rest).length =
            others.length + fuel ∧ members.length < fuel := by
        have hlength := length_lt_member key value (others ++ members) rest
        have hmembers : (others ++ members).length = others.length + members.length :=
          List.length_append
        exact ⟨_, (Nat.add_sub_of_le (by omega)).symm, by omega⟩
      rw [hfuel, readMembers_of_ignores fun m hm => hothers m (List.mem_cons_of_mem _ hm)]
      exact readMembers_of_takes h hall hlt

end Shape

end ClassDiagram.Json
