import ClassDiagram.Ignore.Glob
import ClassDiagram.Text.Blank

/-!
# Rules of ignore files

Each line of an ignore file is a rule: a glob, and whether the paths that it
matches are ignored or kept.  Of the rules of one file, the last one that
matches a path decides.
-/

namespace ClassDiagram.Ignore

open Text

/-- What a rule says about a path. -/
inductive Verdict
  | ignore
  | keep
deriving DecidableEq, Repr

/-- A rule of an ignore file. -/
structure Rule where
  /-- What the rule says. -/
  verdict : Verdict
  /-- Whether the rule is about directories only. -/
  directoriesOnly : Bool
  /-- The paths that the rule is about. -/
  glob : List Token

/-- Whether the rule is about a path; the flag says whether that is a directory. -/
def Rule.concerns (rule : Rule) (path : List UInt8) (isDirectory : Bool) : Bool :=
  (isDirectory || !rule.directoriesOnly) && globMatches rule.glob path

/-- What the rules of a file say about a path, if any of them is about it. -/
def verdict? (rules : List Rule) (path : List UInt8) (isDirectory : Bool) : Option Verdict :=
  (rules.reverse.find? (·.concerns path isDirectory)).map Rule.verdict

/-! ## Reading rules -/

/-- The line without the white space at its end, unless a backslash keeps it. -/
def trimLine (line : List Char) : List Char :=
  if ['\\', ' '].isSuffixOf line then line else dropBlanksEnd line

/-- A mark at the start of a line: what it makes of the rule, whether it ties
the glob to the directory of the file, and the rest of the line. -/
structure Marked where
  verdict : Verdict
  anchored : Bool
  rest : List Char

/-- Takes the marks off the start of a line. -/
def Marked.ofLine (line : List Char) : Marked :=
  let slashed (verdict : Verdict) : List Char → Marked
    | '/' :: rest => ⟨verdict, true, rest⟩
    | rest => ⟨verdict, false, rest⟩
  match line with
  | '\\' :: '!' :: rest => ⟨.ignore, false, '!' :: rest⟩
  | '\\' :: '#' :: rest => ⟨.ignore, false, '#' :: rest⟩
  | '!' :: rest => slashed .keep rest
  | rest => slashed .ignore rest

/-- The line without a slash at its end, or a backslash before that, and
whether there was one. -/
def takeFinalSlash (line : List Char) : Bool × List Char :=
  if line.getLast? = some '/' then
    let line := line.dropLast
    (true, if line.getLast? = some '\\' then line.dropLast else line)
  else (false, line)

/-- The glob that matches a pattern without slashes at any depth. -/
def atAnyDepth (pattern : List Char) : List Char :=
  if ['*', '*', '/'].isPrefixOf pattern || pattern == ['*', '*'] then pattern
  else '*' :: '*' :: '/' :: pattern

/-- The glob of a pattern for what is inside a directory does not match the
directory itself. -/
def strictlyInside (pattern : List Char) : List Char :=
  if ['/', '*', '*'].isSuffixOf pattern then pattern ++ ['/', '*'] else pattern

/-- The rule of a line.  A comment, a blank line and a malformed glob give none. -/
def Rule.ofLine? (line : List Char) : Option Rule :=
  let trimmed := trimLine line
  if line.head? = some '#' ∨ trimmed = [] then none
  else
    let marked := Marked.ofLine trimmed
    let (directoriesOnly, pattern) := takeFinalSlash marked.rest
    let placed :=
      if marked.anchored || pattern.contains '/' then pattern else atAnyDepth pattern
    (globOf? (strictlyInside placed)).map fun glob => ⟨marked.verdict, directoriesOnly, glob⟩

/-- The lines of a file, without the ends of lines: a line feed, or a carriage
return and a line feed. -/
def linesOf (content : List UInt8) : List (List UInt8) :=
  let pieces := content.splitOn 10
  let ended := pieces.dropLast.map fun line =>
    if line.getLast? = some 13 then line.dropLast else line
  ended ++ pieces.getLast?.toList

/-- The leading lines that are text, without byte order marks at the start of
the file. -/
def textLines (content : List UInt8) : List (List Char) :=
  let texts := ((linesOf content).map ofUtf8?).takeWhile Option.isSome
  match texts.filterMap id with
  | [] => []
  | first :: others => first.dropWhile (· == '\ufeff') :: others

/-- The rules of a file. -/
def rulesOf (content : List UInt8) : List Rule :=
  (textLines content).filterMap Rule.ofLine?

end ClassDiagram.Ignore
