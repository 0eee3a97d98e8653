import ClassDiagram.Json.Record
import ClassDiagram.Json.Write
import Mathlib.Data.List.Forall2

/-!
# Reading back what is written

Strings, arrays of items and objects of members are read back as they are written, where
they stand inside of brackets.

Main results:

- Theorem `Json.readBack_string`: a string is read back.
- Theorem `Json.readBack_list`: a list is read back from an array of its items.
- Theorem `Json.Shape.Takes.readBack`: a record is read back from an object whose members
  make it up, one field after the other.
-/

namespace ClassDiagram.Json

/-! ## Strings -/

section

variable {c : Char} {left rest : List Char}

theorem readChars_quote (rest : List Char) : readChars ('"' :: rest) = .ok ([], rest) := by
  rw [readChars]

theorem readChars_of_readEscape (h : readEscape left = .ok (c, rest)) :
    readChars ('\\' :: left) =
      (readChars rest).map fun (chars, left) => (c :: chars, left) := by
  rw [readChars]
  split
  next fault hread =>
    rw [h] at hread
    cases hread
  next c' rest' hread =>
    rw [h] at hread
    cases hread
    rfl

theorem readChars_plain (hquote : c ≠ '"') (hslash : c ≠ '\\') (hcontrol : ¬ c.toNat < 0x20)
    (left : List Char) :
    readChars (c :: left) = (readChars left).map fun (chars, left) => (c :: chars, left) := by
  rw [readChars.eq_def]
  split
  next heq => cases heq
  next heq => exact absurd (List.cons.inj heq).1 hquote
  next heq => exact absurd (List.cons.inj heq).1 hslash
  next c' cs' _ _ heq =>
    obtain ⟨rfl, rfl⟩ := List.cons.inj heq
    rw [if_neg hcontrol]

theorem hexValue?_hexDigit : ∀ n < 16, hexValue? (hexDigit n) = some n := by
  decide

theorem readUnit_code (hcontrol : c.toNat < 0x20) (rest : List Char) :
    readUnit ('0' :: '0' :: hexDigit (c.toNat / 16) :: hexDigit (c.toNat % 16) :: rest) =
      .ok (c.toNat, rest) := by
  have hzero : hexValue? '0' = some 0 := by decide
  have hhigh := hexValue?_hexDigit (c.toNat / 16) (by omega)
  have hlow := hexValue?_hexDigit (c.toNat % 16) (by omega)
  have hvalue : ((0 * 16 + 0) * 16 + c.toNat / 16) * 16 + c.toNat % 16 = c.toNat := by omega
  simp only [readUnit, fourHex?, hzero, hhigh, hlow, bind, Option.bind, pure, hvalue]

theorem readEscape_code (hcontrol : c.toNat < 0x20) (rest : List Char) :
    readEscape ('u' :: '0' :: '0' :: hexDigit (c.toNat / 16) :: hexDigit (c.toNat % 16) :: rest) =
      .ok (c, rest) := by
  have hlead : isLead c.toNat = false := by
    rw [isLead, decide_eq_false (by omega), Bool.false_and]
  have htrail : isTrail c.toNat = false := by
    rw [isTrail, decide_eq_false (by omega), Bool.false_and]
  rw [readEscape, readCodeEscape, readUnit_code hcontrol]
  simp only [bind, Except.bind, htrail, hlead, Bool.false_eq_true, if_false, pure, Except.pure,
    Char.ofNat_toNat]

/-- A character is read back from the way it is written. -/
theorem readChars_escapedChar (c : Char) (left : List Char) :
    readChars (escapedChar c ++ left) =
      (readChars left).map fun (chars, left) => (c :: chars, left) := by
  unfold escapedChar
  split
  · exact readChars_of_readEscape rfl
  · exact readChars_of_readEscape rfl
  · exact readChars_of_readEscape rfl
  · exact readChars_of_readEscape rfl
  · exact readChars_of_readEscape rfl
  · exact readChars_of_readEscape rfl
  · exact readChars_of_readEscape rfl
  · split
    next hcontrol => exact readChars_of_readEscape (readEscape_code hcontrol left)
    next hcontrol => exact readChars_plain ‹_› ‹_› hcontrol left

theorem readChars_flatMap_escapedChar (cs rest : List Char) :
    readChars (cs.flatMap escapedChar ++ '"' :: rest) = .ok (cs, rest) := by
  induction cs with
  | nil => exact readChars_quote rest
  | cons c cs ih =>
      rw [List.flatMap_cons, List.append_assoc, readChars_escapedChar, ih]
      rfl

theorem readText_writeString (s : String) (rest : List Char) :
    readText (s.toList.flatMap escapedChar ++ '"' :: rest) = .ok (s, rest) := by
  rw [readText, readChars_flatMap_escapedChar]
  exact congrArg (fun s => Except.ok (s, rest)) String.ofList_toList

theorem writeString_append (s : String) (rest : List Char) :
    writeString s ++ rest = '"' :: (s.toList.flatMap escapedChar ++ '"' :: rest) := by
  simp [writeString]

end

/-! ## Values -/

theorem dropSpace_cons {c : Char} (hc : isSpace c = false) (cs : List Char) :
    dropSpace (c :: cs) = c :: cs := by
  rw [dropSpace, List.dropWhile_cons_of_neg (by simp [hc])]

theorem peek?_cons {c : Char} (hc : isSpace c = false) (cs : List Char) :
    peek? (c :: cs) = .ok (some c, c :: cs) := by
  rw [peek?, dropSpace_cons hc]
  rfl

/-- The text goes on as it does behind a value inside brackets. -/
def Ended (rest : List Char) : Prop :=
  ∃ c cs, rest = c :: cs ∧ (c = ',' ∨ c = ']' ∨ c = '}')

/-- The text is that of a value inside brackets: it is read in full, and it does not look
like the end of an array. -/
structure ReadBack {α : Type} (item : Reader α) (text : List Char) (value : α) : Prop where
  begins : ∃ c cs, text = c :: cs ∧ isSpace c = false ∧ c ≠ ']'
  read : ∀ rest, Ended rest → item (text ++ rest) = .ok (value, rest)

/-- A string is read back. -/
theorem readBack_string (s : String) : ReadBack readString (writeString s) s where
  begins := ⟨'"', _, rfl, by decide, by decide⟩
  read := by
    intro rest _
    rw [writeString_append]
    exact readText_writeString s rest

section

variable {α : Type} {item : Reader α} {text : List Char} {value : α}

/-- Null is read back where a value may be null. -/
theorem readBack_null : ReadBack (readOption item) ['n', 'u', 'l', 'l'] none where
  begins := ⟨'n', _, rfl, by decide, by decide⟩
  read := fun _ _ => rfl

/-- A value that does not begin like null is read back where it may be null. -/
theorem ReadBack.option (h : ReadBack item text value) (hnull : text.head? ≠ some 'n') :
    ReadBack (readOption item) text (some value) where
  begins := h.begins
  read := by
    intro rest hended
    have hread := h.read rest hended
    obtain ⟨c, cs, rfl, hspace, -⟩ := h.begins
    have hc : c ≠ 'n' := fun heq => hnull (congrArg some heq)
    have hitem : readOption item (c :: cs ++ rest) =
        (item >>= fun value => pure (some value)) (c :: cs ++ rest) := by
      simp [readOption, bind, StateT.bind, Except.bind, peek?_cons hspace, hc]
    rw [hitem]
    simp only [bind, StateT.bind, Except.bind, hread]
    rfl

end

theorem withCommas_cons (item : List Char) (items : List (List Char)) :
    withCommas (item :: items) = item ++ items.flatMap (',' :: ·) := by
  induction items generalizing item with
  | nil => simp [withCommas]
  | cons next items ih =>
      rw [withCommas, ih, List.flatMap_cons, List.cons_append]
      exact List.cons_ne_nil next items

/-! ## Arrays -/

section

variable {α : Type} {item : Reader α} {text : List Char} {texts : List (List Char)} {value : α}
  {values : List α} {fuel : Nat}

theorem nextItem_first (h : ReadBack item text value) (rest : List Char) :
    nextItem true (text ++ rest) = .ok (true, text ++ rest) := by
  obtain ⟨c, cs, rfl, hspace, hclose⟩ := h.begins
  simp only [nextItem, List.cons_append, bind, StateT.bind, Except.bind, peek?_cons hspace]
  rfl

theorem nextItem_comma (h : ReadBack item text value) (rest : List Char) :
    nextItem false (',' :: (text ++ rest)) = .ok (true, text ++ rest) := by
  obtain ⟨c, cs, rfl, hspace, hclose⟩ := h.begins
  -- With `hclose`, this decides the branches of the two matches on a closing bracket.
  have hcomma : ',' ≠ ']' := by decide
  simp only [nextItem, List.cons_append, bind, StateT.bind, Except.bind,
    peek?_cons (c := ',') (by decide), Bool.false_eq_true, if_false, if_true, skipChar,
    List.drop_succ_cons, List.drop_zero, peek?_cons hspace]
  rfl

theorem nextItem_close (first : Bool) (rest : List Char) :
    nextItem first (']' :: rest) = .ok (false, ']' :: rest) := by
  simp only [nextItem, bind, StateT.bind, Except.bind, peek?_cons (c := ']') (by decide)]
  rfl

theorem ended_flatMap_comma (texts : List (List Char)) (rest : List Char) :
    Ended (texts.flatMap (',' :: ·) ++ ']' :: rest) := by
  cases texts with
  | nil => exact ⟨']', rest, rfl, Or.inr (Or.inl rfl)⟩
  | cons text texts => exact ⟨',', _, rfl, Or.inl rfl⟩

theorem readItems_close (first : Bool) (rest : List Char) :
    readItems item (fuel + 1) first (']' :: rest) = .ok ([], ']' :: rest) := by
  rw [readItems]
  simp only [bind, StateT.bind, Except.bind, nextItem_close, Bool.false_eq_true, if_false]
  rfl

/-- Behind the way to it, an item is read before the others. -/
theorem readItems_of_nextItem {first : Bool} {left rest rest' : List Char}
    (hnext : nextItem first left = .ok (true, text ++ rest)) (hended : Ended rest)
    (h : ReadBack item text value)
    (hothers : readItems item fuel false rest = .ok (values, rest')) :
    readItems item (fuel + 1) first left = .ok (value :: values, rest') := by
  rw [readItems]
  simp only [bind, StateT.bind, Except.bind, hnext, if_true, h.read rest hended, hothers]
  rfl

theorem readItems_behind (h : List.Forall₂ (ReadBack item) texts values)
    (hfuel : texts.length < fuel) (rest : List Char) :
    readItems item fuel false (texts.flatMap (',' :: ·) ++ ']' :: rest) =
      .ok (values, ']' :: rest) := by
  induction h generalizing fuel with
  | nil =>
      cases fuel with
      | zero => cases hfuel
      | succ fuel => exact readItems_close false rest
  | @cons text value texts values hread _ ih =>
      cases fuel with
      | zero => cases hfuel
      | succ fuel =>
          rw [List.flatMap_cons, List.append_assoc, List.cons_append]
          exact readItems_of_nextItem (nextItem_comma hread _) (ended_flatMap_comma texts rest)
            hread (ih (Nat.lt_of_succ_lt_succ hfuel))

theorem length_le_flatMap_comma (texts : List (List Char)) :
    texts.length ≤ (texts.flatMap (',' :: ·)).length := by
  induction texts with
  | nil => exact Nat.zero_le _
  | cons text texts ih =>
      rw [List.flatMap_cons, List.length_append, List.length_cons, List.length_cons]
      omega

theorem readList_writeArray (h : List.Forall₂ (ReadBack item) texts values) (rest : List Char) :
    readList item (writeArray texts ++ rest) = .ok (values, rest) := by
  have htext : writeArray texts ++ rest = '[' :: (withCommas texts ++ ']' :: rest) := by
    simp [writeArray]
  have hitems : readItems item ((withCommas texts ++ ']' :: rest).length + 1) true
      (withCommas texts ++ ']' :: rest) = .ok (values, ']' :: rest) := by
    cases h with
    | nil => exact readItems_close true rest
    | @cons text value texts values hread hothers =>
        rw [withCommas_cons, List.append_assoc]
        apply readItems_of_nextItem (nextItem_first hread _) (ended_flatMap_comma texts rest) hread
        apply readItems_behind hothers
        have hlength := length_le_flatMap_comma texts
        simp only [List.length_append, List.length_cons]
        omega
  rw [htext, readList]
  simp only [bind, StateT.bind, Except.bind, peek?_cons (c := '[') (by decide), skipChar,
    List.drop_succ_cons, List.drop_zero, enclosed, hitems]
  rfl

/-- A list is read back from an array of its items. -/
theorem readBack_list (h : List.Forall₂ (ReadBack item) texts values) :
    ReadBack (readList item) (writeArray texts) values where
  begins := ⟨'[', _, rfl, by decide, by decide⟩
  read := fun rest _ => readList_writeArray h rest

/-- A list is read back from an array if every item is read back the way it is written. -/
theorem readBack_map {write : α → List Char} (h : ∀ value, ReadBack item (write value) value)
    (values : List α) : ReadBack (readList item) (writeArray (values.map write)) values := by
  apply readBack_list
  rw [List.forall₂_map_left_iff, List.forall₂_same]
  exact fun value _ => h value

end

/-! ## Objects -/

/-- The written member, followed by the given text. -/
theorem writeMember_append (key : String) (value rest : List Char) :
    writeMember key value ++ rest =
      '"' :: (key.toList.flatMap escapedChar ++ '"' :: ':' :: (value ++ rest)) := by
  rw [writeMember, List.append_assoc, writeString_append]
  rfl

/-- The written object, followed by the given text. -/
theorem writeObject_append (members : List (List Char)) (rest : List Char) :
    writeObject members ++ rest = '{' :: (withCommas members ++ '}' :: rest) := by
  simp [writeObject]

theorem nextKey_first (key : String) (value rest : List Char) :
    nextKey true (writeMember key value ++ rest) = .ok (true, writeMember key value ++ rest) := by
  rw [writeMember_append]
  simp only [nextKey, bind, StateT.bind, Except.bind, peek?_cons (c := '"') (by decide)]
  rfl

theorem nextKey_comma (key : String) (value rest : List Char) :
    nextKey false (',' :: (writeMember key value ++ rest)) =
      .ok (true, writeMember key value ++ rest) := by
  rw [writeMember_append]
  simp only [nextKey, bind, StateT.bind, Except.bind, peek?_cons (c := ',') (by decide)]
  rfl

theorem nextKey_close (first : Bool) (cs : List Char) :
    nextKey first ('}' :: cs) = .ok (false, '}' :: cs) := by
  simp only [nextKey, bind, StateT.bind, Except.bind, peek?_cons (c := '}') (by decide)]
  rfl

theorem readColon_cons (cs : List Char) : readColon (':' :: cs) = .ok ((), cs) := rfl

namespace Shape

variable {α : Type} {shape : Shape α} {field : Field α} {key : String} {value rest : List Char}
  {given given' : List String} {record next record' : α} {fuel : Nat}

/-- Behind the way to its key, a member is read into its field. -/
theorem readMembers_of_nextKey {first : Bool} {left : List Char}
    (hkey : nextKey first left = .ok (true, writeMember key value ++ rest))
    (hfield : shape.fields.find? (·.key == key) = some field) (hnew : given.contains key = false)
    (hread : field.read record (value ++ rest) = .ok (next, rest)) :
    shape.readMembers (fuel + 1) first given record left =
      shape.readMembers fuel false (key :: given) next rest := by
  rw [writeMember_append] at hkey
  rw [readMembers]
  simp only [bind, StateT.bind, Except.bind, hkey, if_true, skipChar, List.drop_succ_cons,
    List.drop_zero, readText_writeString, hfield, hnew, Bool.false_eq_true, if_false,
    readColon_cons, hread]

/-- At the end of an object the record is complete if no field is missing. -/
theorem readMembers_close (hall : shape.firstMissing? given = none) (first : Bool) :
    shape.readMembers (fuel + 1) first given record ('}' :: rest) =
      .ok (.ok record, '}' :: rest) := by
  rw [readMembers]
  simp only [bind, StateT.bind, Except.bind, nextKey_close, Bool.false_eq_true, if_false, hall]
  rfl

/-- The members with the given keys and texts are read one after the other, from a record
and the keys given before to a record and all keys given. -/
inductive Takes (shape : Shape α) :
    List String → α → List (String × List Char) → List String → α → Prop
  | nil {given : List String} {record : α} : Takes shape given record [] given record
  | cons {given given' : List String} {record next record' : α} {key : String}
      {value : List Char} {members : List (String × List Char)} (field : Field α)
      (hfield : shape.fields.find? (·.key == key) = some field)
      (hnew : given.contains key = false)
      (hread : ∀ rest, Ended rest → field.read record (value ++ rest) = .ok (next, rest))
      (hrest : Takes shape (key :: given) next members given' record') :
      Takes shape given record ((key, value) :: members) given' record'

/-- A member whose value is read back goes into its field. -/
theorem Takes.put {β : Type} {item : Reader β} {set : α → β → α} {isOptional : Bool}
    {fieldKey : String} {entry : β} {members : List (String × List Char)}
    (hfield : shape.fields.find? (·.key == key) =
      some ⟨fieldKey, isOptional, fun record => do return set record (← item)⟩)
    (hnew : given.contains key = false) (hvalue : ReadBack item value entry)
    (hrest : Takes shape (key :: given) (set record entry) members given' record') :
    Takes shape given record ((key, value) :: members) given' record' := by
  refine .cons _ hfield hnew (fun rest hended => ?_) hrest
  simp only [bind, StateT.bind, Except.bind, hvalue.read rest hended]
  rfl

/-- The texts of members. -/
def memberTexts (members : List (String × List Char)) : List (List Char) :=
  members.map fun (key, value) => writeMember key value

/-- What stands behind a member: the other members behind commas, the brace that closes the
object, and the text after it. -/
def behindMember (members : List (String × List Char)) (rest : List Char) : List Char :=
  (memberTexts members).flatMap (',' :: ·) ++ '}' :: rest

theorem behindMember_cons (key : String) (value : List Char)
    (members : List (String × List Char)) (rest : List Char) :
    behindMember ((key, value) :: members) rest =
      ',' :: (writeMember key value ++ behindMember members rest) := by
  rw [behindMember, memberTexts, List.map_cons, List.flatMap_cons, List.append_assoc]
  rfl

theorem ended_behindMember (members : List (String × List Char)) (rest : List Char) :
    Ended (behindMember members rest) := by
  cases members with
  | nil => exact ⟨'}', rest, rfl, Or.inr (Or.inr rfl)⟩
  | cons member members => exact ⟨',', _, behindMember_cons _ _ _ _, Or.inl rfl⟩

theorem readMembers_of_takes {members : List (String × List Char)}
    (h : shape.Takes given record members given' record')
    (hall : shape.firstMissing? given' = none) (hfuel : members.length < fuel) :
    shape.readMembers fuel false given record (behindMember members rest) =
      .ok (.ok record', '}' :: rest) := by
  induction h generalizing fuel with
  | nil =>
      cases fuel with
      | zero => cases hfuel
      | succ fuel => exact readMembers_close hall false
  | cons field hfield hnew hread _ ih =>
      cases fuel with
      | zero => cases hfuel
      | succ fuel =>
          rw [behindMember_cons, readMembers_of_nextKey (nextKey_comma _ _ _) hfield hnew
            (hread _ (ended_behindMember _ rest))]
          exact ih hall (Nat.lt_of_succ_lt_succ hfuel)

theorem length_le_behindMember (members : List (String × List Char)) (rest : List Char) :
    members.length ≤ (behindMember members rest).length := by
  induction members with
  | nil => exact Nat.zero_le _
  | cons member members ih =>
      rw [behindMember_cons, List.length_cons, List.length_cons, List.length_append]
      omega

/-- A member and those behind it take more characters than there are members behind it. -/
theorem length_lt_member (key : String) (value : List Char)
    (members : List (String × List Char)) (rest : List Char) :
    members.length < (writeMember key value ++ behindMember members rest).length := by
  have hlength := length_le_behindMember members rest
  rw [writeMember_append]
  simp only [List.length_cons, List.length_append]
  omega

/-- A record is read from an object once its members are read. -/
theorem read_of_readMembers {members : List (String × List Char)}
    (hcontent : shape.readMembers
      ((withCommas (memberTexts members) ++ '}' :: rest).length + 1) true [] shape.blank
      (withCommas (memberTexts members) ++ '}' :: rest) = .ok (.ok record', '}' :: rest)) :
    shape.read (writeObject (memberTexts members) ++ rest) = .ok (record', rest) := by
  rw [writeObject_append, read]
  simp only [bind, StateT.bind, Except.bind, peek?_cons (c := '{') (by decide), skipChar,
    List.drop_succ_cons, List.drop_zero, enclosed, hcontent]
  rfl

/-- The text of members, the first of them in front of the others. -/
theorem withCommas_memberTexts (key : String) (value : List Char)
    (members : List (String × List Char)) (rest : List Char) :
    withCommas (memberTexts ((key, value) :: members)) ++ '}' :: rest =
      writeMember key value ++ behindMember members rest := by
  rw [memberTexts, List.map_cons, withCommas_cons, List.append_assoc]
  rfl

/-- A record is read from an object of written members. -/
theorem read_writeObject {members : List (String × List Char)}
    (h : shape.Takes [] shape.blank members given' record')
    (hall : shape.firstMissing? given' = none) (rest : List Char) :
    shape.read (writeObject (memberTexts members) ++ rest) = .ok (record', rest) := by
  apply read_of_readMembers
  cases h with
  | nil => exact readMembers_close hall true
  | @cons _ _ _ next _ key value members field hfield hnew hread hrest =>
      rw [withCommas_memberTexts, readMembers_of_nextKey (nextKey_first _ _ _) hfield hnew
        (hread _ (ended_behindMember _ rest))]
      exact readMembers_of_takes hrest hall (length_lt_member key value members rest)

/-- A record is read back from an object whose members make it up. -/
theorem Takes.readBack {members : List (String × List Char)}
    (h : shape.Takes [] shape.blank members given' record')
    (hall : shape.firstMissing? given' = none) :
    ReadBack shape.read (writeObject (memberTexts members)) record' where
  begins := ⟨'{', _, rfl, by decide, by decide⟩
  read := fun rest _ => read_writeObject h hall rest

end Shape

end ClassDiagram.Json
