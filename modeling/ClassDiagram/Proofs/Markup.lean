import ClassDiagram.Proofs.EscapedText

/-!
# Reading markup

A reader that goes over a text once, character by character, and tells the tags
in it, each with its attributes and with the text that follows it up to the next
tag.  It is strict: angle brackets stand nowhere but around tags, a value stands
in quotes and holds none of the characters that could end it, and an ampersand
begins one of the three entities.

Main results:

- `Markup.Writes.append` and `Markup.Writes.flatMap`: what is read of texts one
  after the other is what is read of each, whatever has been read before.
- `Markup.Writes.single`, `Markup.Writes.opening` and `Markup.Writes.closing`:
  each kind of tag is read back, an opening one with any text behind it.
- `Markup.Writes.readMarkup?_eq`: a text that writes tags is read as these tags.
-/

namespace ClassDiagram.Markup

/-! ## Tags -/

/-- What a tag does to the part of the document that it names. -/
inductive TagKind
  | opening
  | single
  | closing
deriving DecidableEq, Repr

/-- An attribute of a tag. -/
structure Attribute where
  name : String
  value : List Char
deriving DecidableEq, Repr

/-- A tag of a document. -/
structure Tag where
  kind : TagKind
  name : String
  attributes : List Attribute := []
deriving DecidableEq, Repr

/-- A tag with the text behind it, up to the next tag. -/
structure Mark where
  tag : Tag
  text : List Char := []
deriving DecidableEq, Repr

/-- Whether the character may stand in the name of a tag or an attribute. -/
def isNamePart (c : Char) : Bool :=
  c.isAlphanum || c == '-'

/-- Whether the character may stand in the value of an attribute. -/
def isValuePart (c : Char) : Bool :=
  c != '"' && c != '<' && c != '&'

/-! ## The reader -/

/-- Where in a document a reader stands. -/
inductive Place
  /-- In front of the first tag. -/
  | start
  /-- In the text behind a tag. -/
  | behind (tag : Tag) (text : List Char)
  /-- Behind the bracket that begins a tag. -/
  | bracket
  /-- In an opening tag, in its name or behind one of its attributes. -/
  | head (tag : Tag)
  /-- Behind a blank in an opening tag. -/
  | blank (tag : Tag)
  /-- In the name of an attribute. -/
  | attributeName (tag : Tag) (name : String)
  /-- Between the name of an attribute and its value. -/
  | equals (tag : Tag) (name : String)
  /-- In the value of an attribute. -/
  | value (tag : Tag) (a : Attribute)
  /-- Behind the slash of a single tag. -/
  | slash (tag : Tag)
  /-- In the name of a closing tag. -/
  | closing (name : String)

/-- The place behind a character that does not end the text behind a tag. -/
def Place.next? : Place → Char → Option Place
  | .start, c => if c = '<' then some .bracket else none
  | .behind tag text, c => if c = '>' then none else some (.behind tag (text ++ [c]))
  | .bracket, c =>
    if c = '/' then some (.closing "")
    else if isNamePart c then some (.head ⟨.opening, String.singleton c, []⟩)
    else none
  | .head tag, c =>
    -- Only a name that no attribute follows yet can go on.
    if isNamePart c && tag.attributes.isEmpty then
      some (.head { tag with name := tag.name.push c })
    else if c = ' ' then some (.blank tag)
    else if c = '/' then some (.slash tag)
    else if c = '>' then some (.behind tag [])
    else none
  | .blank tag, c =>
    if isNamePart c then some (.attributeName tag (String.singleton c))
    else if c = '/' then some (.slash tag)
    else none
  | .attributeName tag name, c =>
    if isNamePart c then some (.attributeName tag (name.push c))
    else if c = '=' then some (.equals tag name)
    else none
  | .equals tag name, c => if c = '"' then some (.value tag ⟨name, []⟩) else none
  | .value tag a, c =>
    if isValuePart c then some (.value tag { a with value := a.value ++ [c] })
    else if c = '"' then some (.head { tag with attributes := tag.attributes ++ [a] })
    else none
  | .slash tag, c => if c = '>' then some (.behind { tag with kind := .single } []) else none
  | .closing name, c =>
    if isNamePart c then some (.closing (name.push c))
    else if c = '>' && !name.isEmpty then some (.behind ⟨.closing, name, []⟩ [])
    else none

/-- A reader in a document: the tags whose text has ended, and where it stands. -/
structure Reader where
  marks : List Mark
  place : Place

/-- One character is read. -/
def step (r : Reader) (c : Char) : Option Reader :=
  match r.place with
  | .behind tag text =>
    if c = '<' then
      (Svg.unescape? text).map fun text => ⟨r.marks ++ [⟨tag, text⟩], .bracket⟩
    else (r.place.next? c).map (Reader.mk r.marks)
  | _ => (r.place.next? c).map (Reader.mk r.marks)

/-- A text is read. -/
def run (r : Reader) (text : List Char) : Option Reader :=
  text.foldlM step r

/-- The tags of a document that ends behind a tag and its text. -/
def Reader.finish? (r : Reader) : Option (List Mark) :=
  match r.place with
  | .behind tag text => (Svg.unescape? text).map fun text => r.marks ++ [⟨tag, text⟩]
  | _ => none

/-- The tags of a document, each with the text behind it. -/
def readMarkup? (text : List Char) : Option (List Mark) :=
  (run ⟨[], .start⟩ text).bind Reader.finish?

/-! ## Runs -/

section Runs

variable {r r' : Reader} {s t : List Char} {c : Char}

@[simp] theorem run_nil : run r [] = some r :=
  rfl

theorem run_cons (r' : Reader) (h : step r c = some r') : run r (c :: t) = run r' t := by
  simp [run, h]

theorem run_append (h : run r s = some r') : run r (s ++ t) = run r' t := by
  simp only [run] at h ⊢
  simp [h]

/-- A reader that takes up each character of a text takes up the text. -/
theorem run_collect (marks : List Mark) (place : List Char → Place) (taken : List Char)
    (h : ∀ c ∈ t, ∀ taken, step ⟨marks, place taken⟩ c = some ⟨marks, place (taken ++ [c])⟩) :
    run ⟨marks, place taken⟩ t = some ⟨marks, place (taken ++ t)⟩ := by
  induction t generalizing taken with
  | nil => simp
  | cons c t ih =>
    rw [run_cons _ (h c List.mem_cons_self taken),
      ih (taken ++ [c]) fun d hd => h d (List.mem_cons_of_mem c hd), List.append_assoc,
      List.singleton_append]

end Runs

/-! ## Parts of a tag -/

/-- The text may be the name of a tag or an attribute. -/
def IsName (name : String) : Prop :=
  name.toList ≠ [] ∧ name.toList.all isNamePart

instance (name : String) : Decidable (IsName name) :=
  inferInstanceAs (Decidable (_ ∧ _))

/-- The name and the value of the attribute may stand in a tag. -/
structure Attribute.Proper (a : Attribute) : Prop where
  isName : IsName a.name
  isValue : a.value.all isValuePart

instance (a : Attribute) : Decidable a.Proper :=
  decidable_of_iff (IsName a.name ∧ a.value.all isValuePart)
    ⟨fun h => ⟨h.1, h.2⟩, fun h => ⟨h.1, h.2⟩⟩

/-- The attributes in the way they stand in a tag. -/
def writeAttributes (attributes : List Attribute) : List Char :=
  attributes.flatMap fun a => Svg.attr a.name a.value

theorem writeAttributes_append (a b : List Attribute) :
    writeAttributes (a ++ b) = writeAttributes a ++ writeAttributes b :=
  List.flatMap_append

/-- The name and the attributes of a tag, behind the bracket that begins it. -/
def writeHead (name : String) (attributes : List Attribute) : List Char :=
  '<' :: name.toList ++ writeAttributes attributes

/-- A name is its first character and the others. -/
theorem IsName.exists_cons {name : String} (h : IsName name) :
    ∃ c t, name = String.ofList (c :: t) ∧ isNamePart c ∧ ∀ d ∈ t, isNamePart d := by
  obtain ⟨c, t, eq⟩ := List.exists_cons_of_ne_nil h.1
  have parts := List.all_eq_true.1 h.2
  rw [eq, List.forall_mem_cons] at parts
  exact ⟨c, t, by rw [← eq, String.ofList_toList], parts⟩

section Parts

variable (marks : List Mark) {tag : Tag} {name : String} {attributes : List Attribute}

theorem run_name (h : IsName name) :
    run ⟨marks, .bracket⟩ name.toList = some ⟨marks, .head ⟨.opening, name, []⟩⟩ := by
  obtain ⟨c, t, rfl, hc, ht⟩ := h.exists_cons
  rw [String.toList_ofList, run_cons ⟨marks, .head ⟨.opening, String.ofList [c], []⟩⟩]
  · exact run_collect marks (fun s => .head ⟨.opening, String.ofList s, []⟩) [c]
      fun d hd s => by simp [step, Place.next?, ht d hd]
  · have ne : c ≠ '/' := by
      rintro rfl
      exact absurd hc (by decide)
    simp [step, Place.next?, ne, hc]

theorem run_attributeName (h : IsName name) :
    run ⟨marks, .blank tag⟩ name.toList = some ⟨marks, .attributeName tag name⟩ := by
  obtain ⟨c, t, rfl, hc, ht⟩ := h.exists_cons
  rw [String.toList_ofList, run_cons ⟨marks, .attributeName tag (String.ofList [c])⟩]
  · exact run_collect marks (fun s => .attributeName tag (String.ofList s)) [c]
      fun d hd s => by simp [step, Place.next?, ht d hd]
  · simp [step, Place.next?, hc]

theorem run_closingName (h : IsName name) :
    run ⟨marks, .closing ""⟩ name.toList = some ⟨marks, .closing name⟩ := by
  have collect := run_collect marks (fun s => .closing (String.ofList s)) (t := name.toList) []
    fun d hd s => by simp [step, Place.next?, List.all_eq_true.1 h.2 d hd]
  rwa [List.nil_append, String.ofList_toList] at collect

theorem run_attr {a : Attribute} (h : a.Proper) :
    run ⟨marks, .head tag⟩ (Svg.attr a.name a.value) =
      some ⟨marks, .head { tag with attributes := tag.attributes ++ [a] }⟩ := by
  have value : run ⟨marks, .value tag ⟨a.name, []⟩⟩ a.value = some ⟨marks, .value tag a⟩ :=
    run_collect marks (fun s => .value tag ⟨a.name, s⟩) []
      fun d hd s => by simp [step, Place.next?, List.all_eq_true.1 h.isValue d hd]
  have text : Svg.attr a.name a.value =
      ' ' :: (a.name.toList ++ ('=' :: '"' :: (a.value ++ ['"']))) := by
    simp [Svg.attr]
  rw [text, run_cons ⟨marks, .blank tag⟩ rfl,
    run_append (run_attributeName marks h.isName),
    run_cons ⟨marks, .equals tag a.name⟩ rfl,
    run_cons ⟨marks, .value tag ⟨a.name, []⟩⟩ rfl, run_append value,
    run_cons ⟨marks, .head { tag with attributes := tag.attributes ++ [a] }⟩ rfl, run_nil]

theorem run_writeAttributes (h : ∀ a ∈ attributes, a.Proper) :
    run ⟨marks, .head tag⟩ (writeAttributes attributes) =
      some ⟨marks, .head { tag with attributes := tag.attributes ++ attributes }⟩ := by
  induction attributes generalizing tag with
  | nil => simp [writeAttributes]
  | cons a attributes ih =>
    obtain ⟨ha, hs⟩ := List.forall_mem_cons.1 h
    calc run ⟨marks, .head tag⟩ (writeAttributes (a :: attributes))
        = run ⟨marks, .head { tag with attributes := tag.attributes ++ [a] }⟩
            (writeAttributes attributes) := run_append (run_attr marks ha)
      _ = _ := by rw [ih hs, List.append_assoc, List.singleton_append]

end Parts

/-! ## Texts that write tags -/

/-- A reader of the tags, in the text behind the last of them. -/
def Reader.after (marks : List Mark) : Reader :=
  match marks.getLast? with
  | none => ⟨[], .start⟩
  | some last => ⟨marks.dropLast, .behind last.tag (Svg.escape last.text)⟩

@[simp] theorem Reader.after_nil : Reader.after [] = ⟨[], .start⟩ :=
  rfl

@[simp] theorem Reader.after_append (marks : List Mark) (last : Mark) :
    Reader.after (marks ++ [last]) = ⟨marks, .behind last.tag (Svg.escape last.text)⟩ := by
  simp [Reader.after]

/-- A bracket ends the text behind a tag. -/
theorem step_after (marks : List Mark) : step (Reader.after marks) '<' = some ⟨marks, .bracket⟩ := by
  rcases marks.eq_nil_or_concat with rfl | ⟨init, last, rfl⟩
  · rfl
  · simp [step, Svg.unescape?_escape]

/-- Reading the text gives the tags, whatever has been read before. -/
def Writes (text : List Char) (marks : List Mark) : Prop :=
  ∀ before, run (Reader.after before) text = some (Reader.after (before ++ marks))

namespace Writes

variable {s t : List Char} {m n : List Mark}

theorem nil : Writes [] [] := fun before => by simp

theorem append (hs : Writes s m) (ht : Writes t n) : Writes (s ++ t) (m ++ n) := fun before => by
  rw [run_append (hs before), ht, List.append_assoc]

theorem flatMap {α : Type} {items : List α} {text : α → List Char} {marks : α → List Mark}
    (h : ∀ a ∈ items, Writes (text a) (marks a)) :
    Writes (items.flatMap text) (items.flatMap marks) := by
  induction items with
  | nil => exact nil
  | cons a items ih =>
    obtain ⟨ha, hs⟩ := List.forall_mem_cons.1 h
    exact ha.append (ih hs)

/-- A text that writes some tags is read as these tags. -/
theorem readMarkup?_eq (h : Writes s m) (ne : m ≠ []) : readMarkup? s = some m := by
  obtain ⟨init, last, rfl⟩ := m.eq_nil_or_concat.resolve_left ne
  have reads : run ⟨[], .start⟩ s = some (Reader.after (init ++ [last])) := by
    simpa using h []
  simp [readMarkup?, reads, Reader.finish?, Svg.unescape?_escape]

end Writes

example : readMarkup? "<a b=\"c\">x &lt; y<d /></a>".toList =
    some [⟨⟨.opening, "a", [⟨"b", ['c']⟩]⟩, "x < y".toList⟩, ⟨⟨.single, "d", []⟩, []⟩,
      ⟨⟨.closing, "a", []⟩, []⟩] := by
  decide

section Tags

variable {name : String} {attributes : List Attribute}

/-- The name and the attributes of a tag are read, up to where its kind shows. -/
theorem run_writeHead (named : IsName name) (proper : ∀ a ∈ attributes, a.Proper)
    (marks : List Mark) :
    run (Reader.after marks) (writeHead name attributes) =
      some ⟨marks, .head ⟨.opening, name, attributes⟩⟩ := by
  rw [writeHead, List.cons_append, run_cons _ (step_after marks), run_append (run_name marks named)]
  exact run_writeAttributes marks proper

/-- A text behind a tag is taken up in its escaped form. -/
theorem run_escape (marks : List Mark) (tag : Tag) (text : List Char) :
    run ⟨marks, .behind tag []⟩ (Svg.escape text) =
      some ⟨marks, .behind tag (Svg.escape text)⟩ := by
  refine run_collect marks (.behind tag) [] fun c hc taken => ?_
  simp [step, Place.next?, Svg.ne_bracket_of_mem_escape hc]

theorem Writes.opening (named : IsName name) (proper : ∀ a ∈ attributes, a.Proper)
    (text : List Char) :
    Writes (writeHead name attributes ++ '>' :: Svg.escape text)
      [⟨⟨.opening, name, attributes⟩, text⟩] := fun before => by
  rw [run_append (run_writeHead named proper before),
    run_cons ⟨before, .behind ⟨.opening, name, attributes⟩ []⟩ rfl, run_escape,
    Reader.after_append]

theorem Writes.single (named : IsName name) (proper : ∀ a ∈ attributes, a.Proper) :
    Writes (writeHead name attributes ++ ['/', '>']) [⟨⟨.single, name, attributes⟩, []⟩] :=
  fun before => by
    rw [run_append (run_writeHead named proper before),
      run_cons ⟨before, .slash ⟨.opening, name, attributes⟩⟩ rfl,
      run_cons ⟨before, .behind ⟨.single, name, attributes⟩ []⟩ rfl, run_nil,
      Reader.after_append]
    rfl

/-- A blank in front of the slash makes no difference. -/
theorem Writes.single_blank (named : IsName name) (proper : ∀ a ∈ attributes, a.Proper) :
    Writes (writeHead name attributes ++ [' ', '/', '>']) [⟨⟨.single, name, attributes⟩, []⟩] :=
  fun before => by
    rw [run_append (run_writeHead named proper before),
      run_cons ⟨before, .blank ⟨.opening, name, attributes⟩⟩ rfl,
      run_cons ⟨before, .slash ⟨.opening, name, attributes⟩⟩ rfl,
      run_cons ⟨before, .behind ⟨.single, name, attributes⟩ []⟩ rfl, run_nil,
      Reader.after_append]
    rfl

theorem Writes.closing (named : IsName name) :
    Writes ('<' :: '/' :: name.toList ++ ['>']) [⟨⟨.closing, name, []⟩, []⟩] := fun before => by
  have nonempty : name.isEmpty = false := by
    rw [Bool.eq_false_iff, Ne, String.isEmpty_iff]
    rintro rfl
    exact named.1 rfl
  rw [List.cons_append, run_cons _ (step_after before), List.cons_append,
    run_cons ⟨before, .closing ""⟩ rfl, run_append (run_closingName before named),
    run_cons ⟨before, .behind ⟨.closing, name, []⟩ []⟩
      (by simp [step, Place.next?, nonempty]; decide),
    run_nil, Reader.after_append]
  rfl

end Tags

end ClassDiagram.Markup
