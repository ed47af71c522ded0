import TreeInspector.Proofs.View.Markup
import TreeInspector.View.Scene

/-! # The elements of a scene

The lines of a scene as tags with their attributes. Attributes hold numbers and fixed words, which can
end neither an attribute nor a tag nor a line; labels stand between tags, with entities for the
characters that markup needs. So every line can be read back as the tags it was written from, and the
only text elements are those of the labels.
-/

namespace TreeInspector

open Markup

namespace Scene

/-! ## Tags as they are written -/

/-- A text that cannot end an attribute, a tag or a line. -/
def IsInert (text : String) : Prop := ∀ c ∈ text.toList, c ≠ '<' ∧ c ≠ '>' ∧ c ≠ '"' ∧ c ≠ '\n'

instance (text : String) : Decidable (IsInert text) := List.decidableBAll _ text.toList

theorem IsInert.append {first second : String} (left : IsInert first) (right : IsInert second) :
    IsInert (first ++ second) := by
  intro c member
  rw [String.toList_append, List.mem_append] at member
  exact member.elim (left c) (right c)

theorem isInert_of_digits {text : String} (digits : ∀ c ∈ text.toList, c.isDigit = true) :
    IsInert text := by
  intro c member
  have digit := digits c member
  refine ⟨?_, ?_, ?_, ?_⟩ <;> (rintro rfl; exact absurd digit (by decide))

theorem isInert_repr (n : Nat) : IsInert (Nat.repr n) := by
  apply isInert_of_digits
  intro c member
  rw [Nat.toList_repr] at member
  exact Nat.isDigit_of_mem_toDigits (by decide) (by decide) member

theorem isInert_signText (negative : Bool) : IsInert (Single.signText negative) := by
  cases negative <;> decide

theorem isInert_pointText (places scaled : Nat) : IsInert (Single.pointText places scaled) := by
  refine ((isInert_repr _).append (by decide)).append (isInert_of_digits ?_)
  intro c member
  rw [String.toList_ofList, List.mem_append] at member
  rcases member with zero | digit
  · rw [List.eq_of_mem_replicate zero]
    decide
  · exact Nat.isDigit_of_mem_toDigits (by decide) (by decide) digit

theorem isInert_number (value : Single) : IsInert (number value) := by
  unfold number Single.fixedText
  split
  · decide
  · exact (isInert_signText _).append (by decide)
  · exact (isInert_signText _).append (isInert_pointText _ _)

/-- A tag: its name, its attributes and the mark of a tag that has no content. -/
structure Tag where
  name : String
  fields : List (String × String)
  ending : String

namespace Tag

/-- The written form of a tag, without its brackets. -/
def text (tag : Tag) : List Char :=
  tag.name.toList ++ (tag.fields.flatMap writeField ++ tag.ending.toList)

/-- A tag that can be read back. -/
structure Readable (tag : Tag) : Prop where
  name : IsInert tag.name
  unspaced : ' ' ∉ tag.name.toList
  fields : ∀ field ∈ tag.fields, IsInert field.1 ∧ IsInert field.2
  ending : IsInert tag.ending
  divided : tag.fields = [] → tag.ending = ""

theorem toList_field (name value : String) : (field name value).toList = writeField (name, value) := by
  simp [field, writeField]

section Readable

variable {tag : Tag} (readable : tag.Readable)
include readable

/-- No character of the tag ends it or its line. -/
theorem Readable.text_safe : ∀ c ∈ tag.text, c ≠ '<' ∧ c ≠ '>' ∧ c ≠ '\n' := by
  intro c member
  simp only [text, List.mem_append, List.mem_flatMap] at member
  rcases member with name | ⟨field, among, inside⟩ | ending
  · exact ⟨(readable.name c name).1, (readable.name c name).2.1, (readable.name c name).2.2.2⟩
  · obtain ⟨key, value⟩ := readable.fields field among
    simp only [writeField, List.mem_cons, List.mem_append, List.not_mem_nil, or_false] at inside
    rcases inside with rfl | key' | rfl | rfl | value' | rfl
    · decide
    · exact ⟨(key c key').1, (key c key').2.1, (key c key').2.2.2⟩
    · decide
    · decide
    · exact ⟨(value c value').1, (value c value').2.1, (value c value').2.2.2⟩
    · decide
  · exact ⟨(readable.ending c ending).1, (readable.ending c ending).2.1, (readable.ending c ending).2.2.2⟩

/-- The first space of a tag comes right behind its name. -/
theorem Readable.split : tag.text.takeWhile (· != ' ') = tag.name.toList ∧
    tag.text.dropWhile (· != ' ') = tag.fields.flatMap writeField ++ tag.ending.toList := by
  have plain : ∀ c ∈ tag.name.toList, (c != ' ') = true := by
    intro c member
    rw [bne_iff_ne]
    rintro rfl
    exact readable.unspaced member
  rw [text, List.takeWhile_append_of_pos plain, List.dropWhile_append_of_pos plain]
  cases known : tag.fields with
  | nil =>
    rw [readable.divided known]
    exact ⟨List.append_nil _, rfl⟩
  | cons field rest => exact ⟨List.append_nil _, rfl⟩

theorem Readable.name_eq (behind : List Char) : Segment.name ⟨tag.text, behind⟩ = tag.name := by
  rw [Segment.name, readable.split.1, String.ofList_toList]

theorem Readable.fields_eq (behind : List Char) : Segment.fields ⟨tag.text, behind⟩ = tag.fields := by
  rw [Segment.fields, readable.split.2]
  apply pairUp_pieces
  · intro field among
    obtain ⟨key, value⟩ := readable.fields field among
    exact ⟨fun quote => (key _ quote).2.2.1 rfl, fun quote => (value _ quote).2.2.1 rfl⟩
  · exact fun quote => (readable.ending _ quote).2.2.1 rfl

end Readable

end Tag

/-! ## The elements of a scene -/

/-- The tag of the canvas. -/
def headerTag (size : PixelSize) : Tag where
  name := "svg"
  fields := [("xmlns", "http://www.w3.org/2000/svg"), ("width", Nat.repr size.width),
    ("height", Nat.repr size.height),
    ("viewBox", "0 0 " ++ Nat.repr size.width ++ " " ++ Nat.repr size.height)]
  ending := ""

/-- The tag of the background. -/
def backgroundTag (size : PixelSize) : Tag where
  name := "rect"
  fields := [("width", Nat.repr size.width), ("height", Nat.repr size.height), ("fill", "#ffffff")]
  ending := "/"

/-- The tag of an edge. -/
def edgeTag (stroke : Single) (edge : Box Single × Box Single) : Tag where
  name := "line"
  fields := [("x1", number edge.1.center.x), ("y1", number edge.1.max.y), ("x2", number edge.2.center.x),
    ("y2", number edge.2.min.y), ("stroke", "#404040"), ("stroke-width", number stroke)]
  ending := "/"

/-- The tag of a box. -/
def boxTag (stroke : Single) (box : Box Single) : Tag where
  name := "rect"
  fields := [("x", number box.min.x), ("y", number box.min.y), ("width", number box.width),
    ("height", number box.height), ("fill", "#f4f4f4"), ("stroke", "#a8a8a8"),
    ("stroke-width", number (stroke * Scalar.tenths 5))]
  ending := "/"

/-- The tag of a text. -/
def textTag (fontSize : Single) (node : Placed Single) : Tag where
  name := "text"
  fields := [("x", number node.box.center.x), ("y", number (baseline fontSize node.box)),
    ("font-family", "sans-serif"), ("font-size", number fontSize), ("text-anchor", "middle"),
    ("fill", labelColor node.flagged)]
  ending := ""

/-- The tag that ends an element. -/
def endTag (name : String) : Tag := ⟨"/" ++ name, [], ""⟩

/-- A tag with the characters behind it, as it is read. -/
def segmentOf (piece : Tag × List Char) : Segment := ⟨piece.1.text, piece.2⟩

theorem isInert_labelColor (flagged : Bool) : IsInert (labelColor flagged) := by
  cases flagged <;> decide

/-- A tag with attributes can be read back if its name has no space and its parts are inert. -/
theorem Tag.readable_of_fields {name ending : String} {first : String × String}
    {rest : List (String × String)}
    (plain : IsInert name ∧ ' ' ∉ name.toList ∧ IsInert ending)
    (inert : ∀ field ∈ first :: rest, IsInert field.1 ∧ IsInert field.2) :
    (Tag.mk name (first :: rest) ending).Readable where
  name := plain.1
  unspaced := plain.2.1
  fields := inert
  ending := plain.2.2
  divided := nofun

theorem readable_header (size : PixelSize) : (headerTag size).Readable := by
  apply Tag.readable_of_fields (by decide)
  simp only [List.forall_mem_cons, List.not_mem_nil, false_imp_iff, implies_true, and_true]
  have corner : IsInert ("0 0 " ++ Nat.repr size.width ++ " " ++ Nat.repr size.height) :=
    (((by decide : IsInert "0 0 ").append (isInert_repr _)).append (by decide)).append (isInert_repr _)
  exact ⟨by decide, ⟨by decide, isInert_repr _⟩, ⟨by decide, isInert_repr _⟩, by decide, corner⟩

theorem readable_background (size : PixelSize) : (backgroundTag size).Readable := by
  apply Tag.readable_of_fields (by decide)
  simp only [List.forall_mem_cons, List.not_mem_nil, false_imp_iff, implies_true, and_true]
  exact ⟨⟨by decide, isInert_repr _⟩, ⟨by decide, isInert_repr _⟩, by decide⟩

theorem readable_edge (stroke : Single) (edge : Box Single × Box Single) :
    (edgeTag stroke edge).Readable := by
  apply Tag.readable_of_fields (by decide)
  simp only [List.forall_mem_cons, List.not_mem_nil, false_imp_iff, implies_true, and_true, isInert_number]
  decide

theorem readable_box (stroke : Single) (box : Box Single) : (boxTag stroke box).Readable := by
  apply Tag.readable_of_fields (by decide)
  simp only [List.forall_mem_cons, List.not_mem_nil, false_imp_iff, implies_true, and_true, isInert_number]
  decide

theorem readable_text (fontSize : Single) (node : Placed Single) : (textTag fontSize node).Readable := by
  apply Tag.readable_of_fields (by decide)
  simp only [List.forall_mem_cons, List.not_mem_nil, false_imp_iff, implies_true, and_true, isInert_number,
    isInert_labelColor]
  decide

theorem readable_endText : (endTag "text").Readable :=
  ⟨by decide, by decide, nofun, by decide, fun _ => rfl⟩

theorem readable_endSvg : (endTag "svg").Readable :=
  ⟨by decide, by decide, nofun, by decide, fun _ => rfl⟩

/-- The tags on the lines of a scene, each with the characters behind it. -/
def sheet (scale : Single) (size : PixelSize) (layout : Layout Single) : List (List (Tag × List Char)) :=
  let stroke := strokeWidth scale
  [[(headerTag size, [])], [(backgroundTag size, [])]] ++
    layout.edges.map (fun edge => [(edgeTag stroke edge, [])]) ++
    layout.nodes.flatMap (fun node =>
      [[(boxTag stroke node.box, [])],
        [(textTag layout.fontSize node, (content node.text).toList), (endTag "text", [])]]) ++
    [[(endTag "svg", [])]]

/-- The written form of the tags on a line. -/
def writeLine (line : List (Tag × List Char)) : List Char :=
  (line.map segmentOf).flatMap Segment.write

theorem writeLine_single (tag : Tag) : writeLine [(tag, [])] =
    '<' :: (tag.name.toList ++ (tag.fields.flatMap writeField ++ (tag.ending.toList ++ ['>']))) := by
  simp only [writeLine, segmentOf, Segment.write, Tag.text, List.map_cons, List.map_nil, List.flatMap_cons,
    List.flatMap_nil, List.append_nil, List.append_assoc]

/-- Each kind of line is written as its tags. -/
theorem header_eq (size : PixelSize) : (header size).toList = writeLine [(headerTag size, [])] := by
  have opening : "<svg".toList = '<' :: "svg".toList := by decide
  delta header
  simp only [headerTag, writeLine_single, String.toList_append, Tag.toList_field, opening,
    List.flatMap_cons, List.flatMap_nil, List.append_assoc, List.append_nil, List.cons_append]
  rfl

theorem background_eq (size : PixelSize) :
    (background size).toList = writeLine [(backgroundTag size, [])] := by
  have opening : "<rect".toList = '<' :: "rect".toList := by decide
  delta background
  simp only [backgroundTag, writeLine_single, String.toList_append, Tag.toList_field, opening,
    List.flatMap_cons, List.flatMap_nil, List.append_assoc, List.append_nil, List.cons_append]
  rfl

theorem edge_eq (stroke : Single) (ends : Box Single × Box Single) :
    (edge stroke ends).toList = writeLine [(edgeTag stroke ends, [])] := by
  have opening : "<line".toList = '<' :: "line".toList := by decide
  delta edge
  simp only [edgeTag, writeLine_single, String.toList_append, Tag.toList_field, opening,
    List.flatMap_cons, List.flatMap_nil, List.append_assoc, List.append_nil, List.cons_append]
  rfl

theorem box_eq (stroke : Single) (frame : Box Single) :
    (box stroke frame).toList = writeLine [(boxTag stroke frame, [])] := by
  have opening : "<rect".toList = '<' :: "rect".toList := by decide
  delta box
  simp only [boxTag, writeLine_single, String.toList_append, Tag.toList_field, opening,
    List.flatMap_cons, List.flatMap_nil, List.append_assoc, List.append_nil, List.cons_append]
  rfl

theorem label_eq (fontSize : Single) (node : Placed Single) : (label fontSize node).toList =
    writeLine [(textTag fontSize node, (content node.text).toList), (endTag "text", [])] := by
  have opening : "<text".toList = '<' :: "text".toList := by decide
  have closing : "</text>".toList = '<' :: ((endTag "text").text ++ ['>']) := by decide
  have behind : writeLine [(textTag fontSize node, (content node.text).toList), (endTag "text", [])] =
      '<' :: ((textTag fontSize node).text ++ '>' :: ((content node.text).toList ++ "</text>".toList)) := by
    rw [closing]
    simp only [writeLine, segmentOf, Segment.write, List.map_cons, List.map_nil, List.flatMap_cons,
      List.flatMap_nil, List.append_assoc, List.append_nil, List.cons_append]
  have tag : (labelTag fontSize node).toList = '<' :: ((textTag fontSize node).text ++ ['>']) := by
    delta labelTag
    simp only [Tag.text, textTag, String.toList_append, Tag.toList_field, opening, List.flatMap_cons,
      List.flatMap_nil, List.append_assoc, List.append_nil, List.cons_append]
    rfl
  rw [behind, label, String.toList_append, String.toList_append, tag]
  simp only [List.append_assoc, List.cons_append, List.nil_append]

/-- Every line of a scene is written as its tags. -/
theorem lines_eq (scale : Single) (size : PixelSize) (layout : Layout Single) :
    (lines scale size layout).map String.toList = (sheet scale size layout).map writeLine := by
  have closed : "</svg>".toList = writeLine [(endTag "svg", [])] := by decide
  simp only [lines, sheet, List.map_append, List.map_cons, List.map_nil, List.map_map, List.map_flatMap,
    Function.comp_def, header_eq, background_eq, edge_eq, box_eq, label_eq, closed]

/-! ## Labels -/

/-- The entities of a text are undone by reading it. -/
theorem decode_content (text : String) : decode (content text).toList = text.toList := by
  rw [content, String.toList_ofList]
  induction text.toList with
  | nil => rfl
  | cons c rest ih =>
    rw [List.flatMap_cons, character]
    split_ifs with ampersand less greater
    · simp only [List.cons_append, List.nil_append, decode, ih, ampersand]
    · simp only [List.cons_append, List.nil_append, decode, ih, less]
    · simp only [List.cons_append, List.nil_append, decode, ih, greater]
    · rw [List.singleton_append, decode_cons ampersand, ih]

/-- The content of an element has no markup of its own, and of other characters only those of its text
and of entities. -/
theorem of_mem_content {text : String} {c : Char} (member : c ∈ (content text).toList) :
    c ≠ '<' ∧ c ≠ '>' ∧ (c ∈ text.toList ∨ c ∈ "&;ampltg".toList) := by
  rw [content, String.toList_ofList] at member
  obtain ⟨source, among, written⟩ := List.mem_flatMap.mp member
  -- Gone through as a list of letters, since nothing can be decided here by going through all characters.
  have entities : ∀ entity ∈ ["&amp;", "&lt;", "&gt;"], entity.toList.all (fun c =>
      decide (c ≠ '<' ∧ c ≠ '>' ∧ c ∈ "&;ampltg".toList)) = true := by decide
  have inside (entity : String) (known : entity ∈ ["&amp;", "&lt;", "&gt;"]) (part : c ∈ entity.toList) :
      c ≠ '<' ∧ c ≠ '>' ∧ (c ∈ text.toList ∨ c ∈ "&;ampltg".toList) := by
    obtain ⟨less, greater, letter⟩ := of_decide_eq_true (List.all_eq_true.mp (entities entity known) c part)
    exact ⟨less, greater, .inr letter⟩
  unfold character at written
  split_ifs at written with ampersand less greater
  · exact inside "&amp;" (by decide) written
  · exact inside "&lt;" (by decide) written
  · exact inside "&gt;" (by decide) written
  · rw [List.mem_singleton.mp written]
    exact ⟨less, greater, .inl among⟩

/-! ## Reading a scene -/

/-- Read a scene: the elements on each line. -/
def read? (text : String) : Option (List (List Segment)) :=
  (linesOf text).mapM fun line => Markup.read? line.toList

/-- The text elements among the elements on the lines of a scene. -/
def texts (lines : List (List Segment)) : List Segment :=
  lines.flatten.filter fun element => element.name == "text"

/-- The names of the elements of a drawing of so many nodes. -/
def names (count : Nat) : List (List String) :=
  [["svg"], ["rect"]] ++ List.replicate (count - 1) ["line"] ++
    (List.replicate count [["rect"], ["text", "/text"]]).flatten ++ [["/svg"]]

theorem length_names (count : Nat) :
    (names count).length = if count = 0 then 3 else 3 * count + 2 := by
  simp only [names, List.length_append, List.length_replicate, List.length_flatten, List.map_replicate,
    List.length_cons, List.length_nil, List.sum_replicate_nat]
  split <;> omega

variable {scale : Single} {size : PixelSize} {layout : Layout Single}

theorem readable_sheet : ∀ line ∈ sheet scale size layout, ∀ piece ∈ line, piece.1.Readable := by
  simp only [sheet, List.forall_mem_append, List.forall_mem_cons, List.forall_mem_map, List.forall_mem_flatMap,
    List.not_mem_nil, false_imp_iff, implies_true, and_true]
  exact ⟨⟨⟨⟨readable_header size, readable_background size⟩, fun edge _ => readable_edge _ edge⟩,
    fun node _ => ⟨readable_box _ node.box, readable_text _ node, readable_endText⟩⟩, readable_endSvg⟩

theorem names_sheet (tree : layout.edges.length = layout.nodes.length - 1) :
    (sheet scale size layout).map (fun line => (line.map segmentOf).map Segment.name) =
      names layout.nodes.length := by
  have named : (sheet scale size layout).map (fun line => (line.map segmentOf).map Segment.name) =
      (sheet scale size layout).map fun line => line.map fun piece => piece.1.name := by
    apply List.map_congr_left
    intro line member
    rw [List.map_map]
    apply List.map_congr_left
    intro piece among
    exact (readable_sheet line member piece among).name_eq piece.2
  have ends : (endTag "text").name = "/text" ∧ (endTag "svg").name = "/svg" := by decide
  have edges : (layout.edges.map fun edge => [(edgeTag (strokeWidth scale) edge).name]) =
      List.replicate (layout.nodes.length - 1) ["line"] := by
    rw [← tree]
    change layout.edges.map (fun _ => ["line"]) = _
    exact List.map_const'
  have nodes : (layout.nodes.flatMap fun node => [[(boxTag (strokeWidth scale) node.box).name],
      [(textTag layout.fontSize node).name, "/text"]]) =
        (List.replicate layout.nodes.length [["rect"], ["text", "/text"]]).flatten := by
    change layout.nodes.flatMap (fun _ => [["rect"], ["text", "/text"]]) = _
    rw [List.flatMap_def, List.map_const']
  rw [named, sheet, names, ← edges, ← nodes]
  simp only [List.map_append, List.map_cons, List.map_nil, List.map_map, List.map_flatMap, Function.comp_def,
    ends]
  rfl

/-- One text stands on the lines of each node, and nowhere else. -/
theorem texts_sheet : texts ((sheet scale size layout).map fun line => line.map segmentOf) =
    layout.nodes.map fun node => segmentOf (textTag layout.fontSize node, (content node.text).toList) := by
  have split : texts ((sheet scale size layout).map fun line => line.map segmentOf) =
      (((sheet scale size layout).flatten.filter fun piece => piece.1.name == "text").map segmentOf) := by
    rw [texts, ← List.map_flatten, List.filter_map]
    refine congrArg (List.map segmentOf) (List.filter_congr ?_)
    intro piece among
    obtain ⟨line, member, inside⟩ := List.mem_flatten.mp among
    rw [Function.comp_apply, segmentOf, (readable_sheet line member piece inside).name_eq]
  have edges (edges : List (Box Single × Box Single)) :
      (edges.map fun edge => [(edgeTag (strokeWidth scale) edge, ([] : List Char))]).flatten.filter
        (fun piece => piece.1.name == "text") = [] := by
    induction edges with
    | nil => rfl
    | cons edge rest ih => exact ih
  have nodes (nodes : List (Placed Single)) : (nodes.flatMap fun node =>
      [[(boxTag (strokeWidth scale) node.box, [])],
        [(textTag layout.fontSize node, (content node.text).toList), (endTag "text", [])]]).flatten.filter
          (fun piece => piece.1.name == "text") =
        nodes.map fun node => (textTag layout.fontSize node, (content node.text).toList) := by
    induction nodes with
    | nil => rfl
    | cons node rest ih => exact congrArg (_ :: ·) ih
  rw [split, sheet, List.flatten_append, List.flatten_append, List.flatten_append, List.filter_append,
    List.filter_append, List.filter_append, edges, nodes, List.map_append, List.map_append, List.map_map]
  exact List.append_nil _

/-- A tag with the characters behind it that keeps to its line. -/
def Safe (piece : Tag × List Char) : Prop :=
  ∀ c ∈ piece.1.text ++ piece.2, c ≠ '<' ∧ c ≠ '>' ∧ c ≠ '\n'

theorem Safe.clean {piece : Tag × List Char} (safe : Safe piece) : (segmentOf piece).Clean where
  tag c member := ⟨(safe c (List.mem_append_left _ member)).1, (safe c (List.mem_append_left _ member)).2.1⟩
  behind c member :=
    ⟨(safe c (List.mem_append_right _ member)).1, (safe c (List.mem_append_right _ member)).2.1⟩

theorem unbroken_of_safe {line : List (Tag × List Char)} (safe : ∀ piece ∈ line, Safe piece) :
    '\n' ∉ writeLine line := by
  intro member
  obtain ⟨segment, among, inside⟩ := List.mem_flatMap.mp member
  obtain ⟨piece, written, rfl⟩ := List.mem_map.mp among
  have broken : '\n' ∈ piece.1.text ++ piece.2 := by
    simpa [Segment.write, segmentOf] using inside
  exact (safe piece written _ broken).2.2 rfl

section Unbroken

variable (unbroken : ∀ node ∈ layout.nodes, '\n' ∉ node.text.toList)
include unbroken

theorem safe_sheet : ∀ line ∈ sheet scale size layout, ∀ piece ∈ line, Safe piece := by
  -- What stands behind a tag is nothing or the content of a label.
  have behind : ∀ line ∈ sheet scale size layout, ∀ piece ∈ line,
      ∀ c ∈ piece.2, c ≠ '<' ∧ c ≠ '>' ∧ c ≠ '\n' := by
    simp only [sheet, List.forall_mem_append, List.forall_mem_cons, List.forall_mem_map,
      List.forall_mem_flatMap, List.not_mem_nil, false_imp_iff, implies_true, and_true, true_and]
    intro node member c written
    obtain ⟨less, greater, source⟩ := of_mem_content written
    refine ⟨less, greater, ?_⟩
    rintro rfl
    rcases source with inside | entity
    · exact unbroken node member inside
    · exact absurd entity (by decide)
  intro line member piece among c written
  rcases List.mem_append.mp written with tag | text
  · exact (readable_sheet line member piece among).text_safe c tag
  · exact behind line member piece among c text

/-- A text made of the lines of a scene is divided into these lines. -/
theorem linesOf_lines {text : String}
    (written : text.toList = (lines scale size layout).flatMap fun line => line.toList ++ ['\n']) :
    linesOf text = lines scale size layout := by
  refine linesOf_flatMap ?_ written
  intro line member
  have among : line.toList ∈ (sheet scale size layout).map writeLine := by
    rw [← lines_eq]
    exact List.mem_map_of_mem member
  obtain ⟨pieces, inside, same⟩ := List.mem_map.mp among
  rw [← same]
  exact unbroken_of_safe (safe_sheet unbroken pieces inside)

/-- Reading the lines of a scene gives its elements. -/
theorem read?_lines {text : String}
    (written : text.toList = (lines scale size layout).flatMap fun line => line.toList ++ ['\n']) :
    read? text = some ((sheet scale size layout).map fun line => line.map segmentOf) := by
  have safe := @safe_sheet scale size layout unbroken
  have each : read? text = ((lines scale size layout).map String.toList).mapM Markup.read? := by
    rw [read?, linesOf_lines unbroken written, List.mapM_map]
    rfl
  rw [each, lines_eq]
  generalize sheet scale size layout = sheet at safe
  clear each written unbroken
  induction sheet with
  | nil => rfl
  | cons line rest ih =>
    obtain ⟨here, later⟩ := List.forall_mem_cons.mp safe
    have clean : ∀ segment ∈ line.map segmentOf, segment.Clean :=
      List.forall_mem_map.mpr fun piece member => (here piece member).clean
    rw [List.map_cons, List.mapM_cons, writeLine, Markup.read?_write clean, ih later]
    rfl

end Unbroken

end Scene

end TreeInspector
