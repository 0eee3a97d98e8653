import ClassDiagram.Text.Blank
import ClassDiagram.Text.Utf8

/-!
# Configuration of a workspace

Which files of a directory tree are source units: those whose names end with a
suffix, without the ones that ignore files exclude if those are respected.
Both settings can be given as environment variables.
-/

namespace ClassDiagram

open Text

/-- How source units are selected in a directory tree. -/
structure Config where
  /-- What the names of source units end with. -/
  suffix : List Char := ['.', 'c', 's']
  /-- Whether ignore files are respected. -/
  respectIgnoreFiles : Bool := true
deriving DecidableEq

namespace Config

/-- The variable that gives the suffix. -/
def suffixVariable : String := "CODEMAP_SOURCE_SUFFIX"

/-- The variable that says whether ignore files are respected. -/
def respectIgnoreVariable : String := "CODEMAP_RESPECT_IGNORE"

/-- The words, in lower case, that mean no. -/
def negatives : List (List Char) :=
  ["0".toList, "false".toList, "no".toList, "off".toList]

/-- Whether a value means yes: any but the negatives, in letters of either case. -/
def isAffirmative (value : List Char) : Bool :=
  !negatives.contains ((trim value).map Char.toLower)

/-- The configuration with the suffix replaced by a value, unless that is blank. -/
def withSuffix (config : Config) (value : List Char) : Config :=
  match trim value with
  | [] => config
  | suffix => { config with suffix := suffix }

/-- The configuration that environment variables give.  A variable whose value
is no text counts as unset, and so does a blank suffix. -/
def ofVariables (value? : String → Option (List UInt8)) : Config :=
  let text? (name : String) := (value? name).bind ofUtf8?
  let config : Config :=
    match text? suffixVariable with
    | some value => Config.withSuffix {} value
    | none => {}
  match text? respectIgnoreVariable with
  | some value => { config with respectIgnoreFiles := isAffirmative value }
  | none => config

end Config

end ClassDiagram
