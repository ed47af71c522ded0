import TreeInspector.CommandLine.Basic

/-! # The tool on the real disk

The command line tool with the files of the machine as its surroundings.
-/

namespace TreeInspector

namespace Machine

/-- A refusal in the system's words, with its number. -/
def refusalText (error : IO.Error) : String :=
  let numbered (code : UInt32) (details : String) : String :=
    details ++ " (os error " ++ Nat.repr code.toNat ++ ")"
  match error with
  | .noFileOrDirectory _ code details => numbered code details
  | .permissionDenied _ code details => numbered code details
  | .inappropriateType _ code details => numbered code details
  | .resourceBusy code details => numbered code details
  | .invalidArgument _ code details => numbered code details
  | .resourceExhausted _ code details => numbered code details
  | .otherError code details => numbered code details
  | other => other.toString

/-- Read a text file. -/
def read (path : String) : IO (Except String String) := do
  try
    match String.fromUTF8? (← IO.FS.readBinFile path) with
    | some text => return .ok text
    | none => return .error Disk.notText
  catch error => return .error (refusalText error)

/-- The first offered path from a number on at which nothing exists. A dot stands for a working
directory that cannot be told. -/
partial def suggestFrom (number : Nat) : IO String := do
  let folder ← try IO.currentDir catch _ => pure "."
  let file := folder / Export.offered number
  if ← file.pathExists then suggestFrom (number + 1) else return file.toString

/-- Save a picture as a temporary file first, then move it to its path. -/
def saveFrom (temporary : String) (bitmap : Bitmap) (path : String) : IO (Except String Unit) := do
  try
    IO.FS.writeBinFile temporary ⟨(Png.encode bitmap).toArray⟩
  catch error => return .error (refusalText error ++ " at path " ++ Quoted.quote temporary)
  try
    IO.FS.rename temporary path
    return .ok ()
  catch error =>
    IO.FS.removeFile temporary
    return .error (refusalText error)

/-- Save a picture, by a temporary file beside its path that is known by its full path. -/
def save (bitmap : Bitmap) (path : String) : IO (Except String Unit) := do
  let folder := Disk.folderOf path
  let name := Disk.temporaryName (← IO.rand 0 999999)
  if Path.isAbsolute folder then saveFrom (Path.join folder name) bitmap path
  else
    try
      saveFrom (Path.join (Path.join (← IO.currentDir).toString folder) name) bitmap path
    catch error => return .error (refusalText error)

/-- The machine as the surroundings of the tool. -/
def surroundings : CommandLine.Surroundings IO := ⟨read, suggestFrom 0, save⟩

end Machine

end TreeInspector

/-- Run the tool, print its reply and end with its exit code. -/
def main (arguments : List String) : IO UInt32 := do
  let reply ← TreeInspector.CommandLine.run TreeInspector.Machine.surroundings arguments
  IO.print reply.out
  IO.eprint reply.err
  return reply.code.toUInt32
