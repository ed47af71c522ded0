import TreeInspector.View.Basic

/-! # The scene of a view

The drawing as scalable vector graphics, one element a line: the canvas, the background, a line for
every edge, then a box and a text for every node. Numbers have two digits after the point. Labels
are written so that they cannot end their element.
-/

namespace TreeInspector

namespace Scene

/-- The markup that stands for one character of a text. -/
def character (c : Char) : List Char :=
  if c = '&' then ['&', 'a', 'm', 'p', ';']
  else if c = '<' then ['&', 'l', 't', ';']
  else if c = '>' then ['&', 'g', 't', ';']
  else [c]

/-- A text as markup content. -/
def content (text : String) : String := String.ofList (text.toList.flatMap character)

/-- The written form of a coordinate. -/
def number (value : Single) : String := value.fixedText 2

/-- An attribute with its value. -/
def field (name value : String) : String := " " ++ name ++ "=\"" ++ value ++ "\""

/-- The opening tag of the drawing. -/
def header (size : PixelSize) : String :=
  let width := Nat.repr size.width
  let height := Nat.repr size.height
  "<svg" ++ field "xmlns" "http://www.w3.org/2000/svg" ++ field "width" width ++
    field "height" height ++ field "viewBox" ("0 0 " ++ width ++ " " ++ height) ++ ">"

/-- The background of the drawing. -/
def background (size : PixelSize) : String :=
  "<rect" ++ field "width" (Nat.repr size.width) ++ field "height" (Nat.repr size.height) ++
    field "fill" "#ffffff" ++ "/>"

/-- The line from the bottom of a parent to the top of a child. -/
def edge (stroke : Single) (edge : Box Single × Box Single) : String :=
  "<line" ++ field "x1" (number edge.1.center.x) ++ field "y1" (number edge.1.max.y) ++
    field "x2" (number edge.2.center.x) ++ field "y2" (number edge.2.min.y) ++
    field "stroke" "#404040" ++ field "stroke-width" (number stroke) ++ "/>"

/-- The box of a node. -/
def box (stroke : Single) (box : Box Single) : String :=
  "<rect" ++ field "x" (number box.min.x) ++ field "y" (number box.min.y) ++
    field "width" (number box.width) ++ field "height" (number box.height) ++
    field "fill" "#f4f4f4" ++ field "stroke" "#a8a8a8" ++
    field "stroke-width" (number (stroke * Scalar.tenths 5)) ++ "/>"

/-- The colour of a label. -/
def labelColor (flagged : Bool) : String := if flagged then "#d01010" else "#000000"

/-- The height at which a label stands in its box. -/
def baseline (fontSize : Single) (box : Box Single) : Single :=
  box.min.y + (box.height + fontSize * Scalar.tenths 7) * Scalar.tenths 5

/-- The opening tag of a label. -/
def labelTag (fontSize : Single) (node : Placed Single) : String :=
  "<text" ++ field "x" (number node.box.center.x) ++
    field "y" (number (baseline fontSize node.box)) ++ field "font-family" "sans-serif" ++
    field "font-size" (number fontSize) ++ field "text-anchor" "middle" ++
    field "fill" (labelColor node.flagged) ++ ">"

/-- The label of a node. -/
def label (fontSize : Single) (node : Placed Single) : String :=
  labelTag fontSize node ++ content node.text ++ "</text>"

/-- The width of the strokes at a scale. -/
def strokeWidth (scale : Single) : Single := scale.max (Scalar.tenths 1)

/-- The lines of a drawing. -/
def lines (scale : Single) (size : PixelSize) (layout : Layout Single) : List String :=
  let stroke := strokeWidth scale
  [header size, background size] ++ layout.edges.map (edge stroke) ++
    layout.nodes.flatMap (fun node => [box stroke node.box, label layout.fontSize node]) ++
    ["</svg>"]

end Scene

namespace View

/-- The lines of the view's scene. -/
def sceneLines (view : View) : List String := Scene.lines view.scale view.size view.layout

/-- The text of the view's scene. -/
def scene (view : View) : String :=
  view.sceneLines.foldl (fun text line => text ++ line ++ "\n") ""

end View

end TreeInspector
