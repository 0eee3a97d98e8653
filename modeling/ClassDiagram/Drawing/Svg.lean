import ClassDiagram.Drawing.Shapes

/-!
# Drawings as SVG

The text of a drawing as an SVG document: for every box a rectangle and its
label, then for every line a path, and at the end the definition of the
arrowhead that the paths refer to.
-/

namespace ClassDiagram.Svg

/-! ## Text between tags -/

/-- The text with every occurrence of a character replaced by another text. -/
def replaceChar (c : Char) (replacement text : List Char) : List Char :=
  text.flatMap fun d => if d = c then replacement else [d]

/-- The entity of the ampersand. -/
def ampersandEntity : List Char := ['&', 'a', 'm', 'p', ';']

/-- The entity of the opening angle bracket. -/
def lessEntity : List Char := ['&', 'l', 't', ';']

/-- The entity of the closing angle bracket. -/
def greaterEntity : List Char := ['&', 'g', 't', ';']

/-- The text with the characters that would be read as markup replaced by
entities, the ampersand before the others. -/
def escape (text : List Char) : List Char :=
  replaceChar '>' greaterEntity
    (replaceChar '<' lessEntity (replaceChar '&' ampersandEntity text))

/-! ## Tags -/

/-- An attribute of a tag. -/
def attr (name : String) (value : List Char) : List Char :=
  ' ' :: name.toList ++ '=' :: '"' :: value ++ ['"']

/-- An attribute with a fixed value. -/
def fixed (name value : String) : List Char :=
  attr name value.toList

/-- The opening of the document. -/
def opening : List Char :=
  "<svg".toList ++ fixed "xmlns" "http://www.w3.org/2000/svg" ++ ['>']

/-- The rectangle of a box. -/
def rectangle (box : BoxShape) : List Char :=
  "<rect".toList ++ attr "x" (coordinate box.x) ++ attr "y" (coordinate box.y) ++
    attr "width" (coordinate box.width) ++ attr "height" (coordinate box.height) ++
    attr "rx" (coordinate box.cornerRadius) ++ fixed "fill" "#23263a" ++
    fixed "stroke" "#e0e6f0" ++ fixed "stroke-width" "2" ++ " />".toList

/-- The label of a box. -/
def label (box : BoxShape) : List Char :=
  "<text".toList ++ attr "x" (coordinate box.labelX) ++
    attr "y" (coordinate box.labelY) ++ fixed "text-anchor" "middle" ++
    fixed "fill" "#fff" ++ fixed "font-size" "16" ++ fixed "font-family" "sans-serif" ++
    '>' :: escape box.label.toList ++ "</text>".toList

/-- The id of the arrowhead. -/
def arrowheadId : String := "arrowhead"

/-- The path of a line. -/
def path (line : LineShape) : List Char :=
  "<path".toList ++ attr "d" line.commands ++ fixed "stroke" "#aaa" ++
    fixed "stroke-width" "2" ++ fixed "fill" "none" ++
    fixed "marker-end" ("url(#" ++ arrowheadId ++ ")") ++
    (line.dash?.elim [] (fixed "stroke-dasharray")) ++ " />".toList

/-- The definition of the arrowhead. -/
def arrowhead : List Char :=
  "<defs><marker".toList ++ fixed "id" arrowheadId ++ fixed "markerWidth" "10" ++
    fixed "markerHeight" "7" ++ fixed "refX" "10" ++ fixed "refY" "3.5" ++
    fixed "orient" "auto" ++ fixed "markerUnits" "strokeWidth" ++ "><polygon".toList ++
    fixed "points" "0 0, 10 3.5, 0 7" ++ fixed "fill" "#aaa" ++ "/></marker></defs>".toList

/-- The end of the document. -/
def closing : List Char :=
  "</svg>".toList

/-- The document of a drawing. -/
def write (drawing : Drawing) : List Char :=
  opening ++ drawing.boxes.flatMap (fun box => rectangle box ++ label box) ++
    drawing.lines.flatMap path ++ arrowhead ++ closing

end ClassDiagram.Svg

namespace ClassDiagram

/-- The drawing as an SVG document. -/
def Drawing.toSvg (drawing : Drawing) : String :=
  String.ofList (Svg.write drawing)

end ClassDiagram
