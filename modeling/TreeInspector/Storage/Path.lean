import TreeInspector.Text.Pieces

/-! # Path texts

A path is kept as the text someone gave. Joining keeps both texts as they are; the parent of a path
is the text before its last name. Slashes at the end and single dots past the first name add nothing.
-/

namespace TreeInspector

namespace Path

/-- The names of a path between its slashes, empty ones included. -/
def names (path : String) : List String := (pieces '/' path.toList).map String.ofList

/-- Whether a path starts at the root. -/
def isAbsolute (path : String) : Bool := path.toList.head? == some '/'

/-- A path inside a folder. An absolute path stands for itself; otherwise one slash divides the
texts, unless the folder already ends in one or is empty. -/
def join (folder path : String) : String :=
  if isAbsolute path then path
  else match folder.toList.getLast? with
    | none => path
    | some last => if last = '/' then folder ++ path else folder ++ "/" ++ path

/-- Whether a name adds nothing to the path before it. -/
def isIdle (name : String) : Bool := name == "" || name == "."

/-- Drop the names at the end that add nothing. -/
def dropIdle (names : List String) : List String := (names.reverse.dropWhile isIdle).reverse

/-- Names with slashes between them. -/
def text (names : List String) : String := String.intercalate "/" names

/-- The text before the last name of a path; the root and the empty path have none. A single dot is
a name only at the start of a path. -/
def parent? (path : String) : Option String :=
  match isAbsolute path, names path with
  | true, names =>
    match dropIdle (names.drop 1) with
    | [] => none
    | first :: rest => some ("/" ++ text (dropIdle (first :: rest).dropLast))
  | false, "." :: names =>
    match dropIdle names with
    | [] => some ""
    | first :: rest => some (text ("." :: dropIdle (first :: rest).dropLast))
  | false, names =>
    match dropIdle names with
    | [] => none
    | first :: rest => some (text (dropIdle (first :: rest).dropLast))

end Path

end TreeInspector
