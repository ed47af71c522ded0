import TreeInspector.Storage.Disk

/-! # Where exports go

An export is offered the first free name of a numbered series. The name is only looked up, never
reserved.
-/

namespace TreeInspector

namespace Export

/-- The file names of a series: the bare name, then the name with each number from one on. -/
def candidate (base extension : String) : Nat → String
  | 0 => base ++ "." ++ extension
  | number + 1 => base ++ "_" ++ Nat.repr (number + 1) ++ "." ++ extension

/-- The first path of a series in a folder that is not taken, looking at no more than so many taken
ones. -/
def freePath (taken : String → Bool) (bound : Nat) (folder base extension : String) : String :=
  let path (number : Nat) := Path.join folder (candidate base extension number)
  path (Disk.firstFree (fun number => taken (path number)) bound 0)

/-- The first path of a series in a folder at which nothing exists. Each path that exists but the
first ends in an entry of its own, which bounds the search. -/
def nextFree (disk : Disk) (folder base extension : String) : String :=
  freePath disk.has (disk.entries.length + 1) folder base extension

/-- The base name of exports. -/
def baseName : String := "parse_tree"

/-- The extension of exports. -/
def fileExtension : String := "png"

/-- The names offered for exports. -/
def offered : Nat → String := candidate baseName fileExtension

/-- The path offered for an export, in the working directory. If the disk does not tell which one that
is, a dot stands for it. -/
def defaultPath (disk : Disk) : String :=
  nextFree disk (disk.directoryText.toOption.getD ".") baseName fileExtension

end Export

end TreeInspector
