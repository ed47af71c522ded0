import TreeInspector.Picture.Png
import TreeInspector.Storage.Path

/-! # The disk

Directories, files and links by their place. A path text is walked name by name from the root or
from the working directory; links are followed on the way, up to a limit. A file is created next to
its target under a fresh name and then moved over it, so that a refusal leaves the disk as it was.
-/

namespace TreeInspector

/-- Names from the root down. -/
abbrev Place := List String

/-- What a file holds. -/
inductive Content where
  | bytes (data : List UInt8)
  | picture (bitmap : Bitmap)

namespace Content

/-- The bytes of a file. -/
def data : Content → List UInt8
  | .bytes data => data
  | .picture bitmap => Png.encode bitmap

/-- The size of the picture in a file, if there is one. -/
def pictureSize? : Content → Option PixelSize
  | .bytes data => Png.size? data
  | .picture bitmap => some bitmap.size

/-- The text in a file, if its bytes are one. -/
def text? (content : Content) : Option String := String.fromUTF8? ⟨content.data.toArray⟩

end Content

/-- What stands at a place. -/
inductive Entry where
  | directory
  | file (content : Content)
  | link (target : String)

/-- Pictures are not compared, but what stands at a place is a directory or not. -/
instance Entry.decidableIsDirectory : (entry : Option Entry) → Decidable (entry = some .directory)
  | some .directory => isTrue rfl
  | some (.file _) | some (.link _) | none => isFalse nofun

/-- Why the disk refuses a request. -/
inductive Refusal where
  | notFound
  | busy
  | notDirectory
  | isDirectory
  | invalidArgument
  | noSpace
  | nameTooLong
  | tooManyLinks
  | zeroByte
  | other (words : String) (number : Nat)
deriving DecidableEq

/-- A refusal in the system's words, with its number; a path with a zero byte never gets there. -/
def Refusal.text : Refusal → String
  | .notFound => "No such file or directory (os error 2)"
  | .busy => "Device or resource busy (os error 16)"
  | .notDirectory => "Not a directory (os error 20)"
  | .isDirectory => "Is a directory (os error 21)"
  | .invalidArgument => "Invalid argument (os error 22)"
  | .noSpace => "No space left on device (os error 28)"
  | .nameTooLong => "File name too long (os error 36)"
  | .tooManyLinks => "Too many levels of symbolic links (os error 40)"
  | .zeroByte => "file name contained an unexpected NUL byte"
  | .other words number => words ++ " (os error " ++ Nat.repr number ++ ")"

/-- What is asked of a disk on the way of a file to its place: the working directory, and then what is
done to the file. -/
inductive Request where
  | tellDirectory
  | create
  | write
  | flush
  | move
deriving DecidableEq

/-- The entries of a disk by place, the directory that relative paths start from, and the requests it
refuses whatever they are about, for want of space or of a permission, or as the working directory is
lost. The root is a directory without an entry of its own. -/
structure Disk where
  entries : List (Place × Entry)
  workingDirectory : Place
  faults : Request → Option Refusal

namespace Disk

/-- A disk with nothing but a working directory and the directories above it. -/
def empty (workingDirectory : Place) : Disk where
  entries := (List.range workingDirectory.length).map fun count =>
    (workingDirectory.take (count + 1), .directory)
  workingDirectory
  faults := fun _ => none

/-- What stands at a place. -/
def get? (disk : Disk) (place : Place) : Option Entry :=
  if place.isEmpty then some .directory else disk.entries.lookup place

/-- Take away what stands at a place. -/
def remove (place : Place) (disk : Disk) : Disk :=
  { disk with entries := disk.entries.filter fun entry => entry.1 != place }

/-- Let an entry stand at a place, whatever stood there. -/
def put (place : Place) (entry : Entry) (disk : Disk) : Disk :=
  { disk with entries := (place, entry) :: (disk.remove place).entries }

/-- Create the directories down to a place that do not exist yet. -/
def makeDirectories (place : Place) (disk : Disk) : Disk :=
  (List.range place.length).foldl (fun disk count =>
    let upper := place.take (count + 1)
    if (disk.get? upper).isSome then disk else disk.put upper .directory) disk

/-- The text of a place. -/
def placeText (place : Place) : String := "/" ++ Path.text place

/-- Refuse a request that the disk has a fault for. -/
def permit (disk : Disk) (request : Request) : Except Refusal Unit :=
  match disk.faults request with
  | none => .ok ()
  | some refusal => .error refusal

/-- The text of the working directory, if the disk tells it. -/
def directoryText (disk : Disk) : Except Refusal String :=
  (disk.permit .tellDirectory).map fun _ => placeText disk.workingDirectory

/-! ## Walking -/

/-- The most bytes a name has. -/
def nameLimit : Nat := 255

/-- The most bytes a path text has. -/
def pathLimit : Nat := 4095

/-- The most links followed on one walk. -/
def linkLimit : Nat := 40

/-- Where a path text starts. -/
def start (disk : Disk) (path : String) : Place :=
  if Path.isAbsolute path then [] else disk.workingDirectory

/-- Walk along names from a place, which has to be a directory as long as names follow. A link goes
on with the names of its target. -/
def walkNames (disk : Disk) (follow : Place → List String → Except Refusal Place) :
    Place → List String → Except Refusal Place
  | here, [] => .ok here
  | here, name :: rest =>
    if disk.get? here ≠ some .directory then .error .notDirectory
    else if Path.isIdle name then walkNames disk follow here rest
    else if name = ".." then walkNames disk follow here.dropLast rest
    else if name.utf8ByteSize > nameLimit then .error .nameTooLong
    else match disk.get? (here ++ [name]) with
      | none => .error .notFound
      | some (.link target) =>
        if target.isEmpty then .error .notFound
        else follow (if Path.isAbsolute target then [] else here) (Path.names target ++ rest)
      | some _ => walkNames disk follow (here ++ [name]) rest

/-- Walk along names, following at most so many links. -/
def walk (disk : Disk) : Nat → Place → List String → Except Refusal Place
  | 0 => walkNames disk fun _ _ => .error .tooManyLinks
  | more + 1 => walkNames disk (walk disk more)

/-- Refuse a path text that has a zero byte, for which requests have words of their own, that names
nothing or that is too long. -/
def checkPath (onZeroByte : Refusal) (path : String) : Except Refusal Unit :=
  if path.toList.contains '\x00' then .error onZeroByte
  else if path.isEmpty then .error .notFound
  else if path.utf8ByteSize > pathLimit then .error .nameTooLong
  else .ok ()

/-- The place a path text leads to, links followed. -/
def locate (disk : Disk) (path : String) : Except Refusal Place := do
  checkPath .zeroByte path
  disk.walk linkLimit (disk.start path) (Path.names path)

/-- Whether a path text leads anywhere. -/
def has (disk : Disk) (path : String) : Bool :=
  match disk.locate path with
  | .ok _ => true
  | .error _ => false

/-- The text of the place a path leads to, without links and dots. For a relative path the disk has to
tell the working directory. -/
def canonical (disk : Disk) (path : String) : Except Refusal String := do
  unless Path.isAbsolute path do disk.permit .tellDirectory
  return placeText (← disk.locate path)

/-! ## Reading and writing -/

/-- Read the file a path leads to. -/
def read (disk : Disk) (path : String) : Except Refusal Content := do
  match disk.get? (← disk.locate path) with
  | some (.file content) => return content
  | some .directory => throw .isDirectory
  | _ => throw .notFound

/-- The directory a path leads to. -/
def locateDirectory (disk : Disk) (path : String) : Except Refusal Place := do
  let place ← disk.locate path
  if disk.get? place = some .directory then return place else throw .notDirectory

/-- The first number that is not taken, looking at so many from a number on. -/
def firstFree (taken : Nat → Bool) : Nat → Nat → Nat
  | 0, number => number
  | more + 1, number => if taken number then firstFree taken more (number + 1) else number

/-- The names of temporary files, numbered in six digits. -/
def temporaryName (number : Nat) : String :=
  let digits := Nat.repr number
  ".tmp" ++ String.ofList (List.replicate (6 - digits.length) '0') ++ digits

/-- A temporary name in a directory under which nothing stands. -/
def freshName (disk : Disk) (folder : Place) : String :=
  temporaryName (firstFree (fun number => (disk.get? (folder ++ [temporaryName number])).isSome)
    (disk.entries.length + 1) 0)

/-- The full path of a file in a folder. For a relative folder the disk has to tell the working
directory. -/
def fullPath (disk : Disk) (folder name : String) : Except Refusal String :=
  if Path.isAbsolute folder then .ok (Path.join folder name)
  else disk.directoryText.map fun directory => Path.join (Path.join directory folder) name

/-- Create an empty temporary file in a directory, under its full path, and give its place. -/
def createTemporary (disk : Disk) (folder : String) : Except Refusal (Place × Disk) := do
  checkPath .zeroByte (← disk.fullPath folder (temporaryName 0))
  let folder ← disk.locateDirectory folder
  disk.permit .create
  let place := folder ++ [disk.freshName folder]
  return (place, disk.put place (.file (.bytes [])))

/-- Fill a file with content. -/
def fill (disk : Disk) (place : Place) (content : Content) : Except Refusal Disk := do
  disk.permit .write
  disk.permit .flush
  return disk.put place (.file content)

/-- The place a file moved to a path text comes to stand at. The path has to
end in a name, without a slash behind it, that is not a directory's. A link there is not followed. -/
def moveTarget (disk : Disk) (path : String) : Except Refusal Place := do
  checkPath .invalidArgument path
  let names := Path.names path
  let trimmed := (names.reverse.dropWhile (· == "")).reverse
  let folder ← disk.walk linkLimit (disk.start path) trimmed.dropLast
  if disk.get? folder ≠ some .directory then .error .notDirectory
  else match trimmed.getLast? with
    | none => .error .busy
    | some name =>
      if name = "." || name = ".." then .error .busy
      else if name.utf8ByteSize > nameLimit then .error .nameTooLong
      else if trimmed.length < names.length then .error .notDirectory
      else if disk.get? (folder ++ [name]) = some .directory then .error .isDirectory
      else .ok (folder ++ [name])

/-- Move a file to a path text, over what stands there. -/
def move (disk : Disk) (file : Place) (path : String) : Except Refusal Disk := do
  let place ← disk.moveTarget path
  disk.permit .move
  match disk.get? file with
  | some entry => return (disk.remove file).put place entry
  | none => throw .notFound

/-! ## Listing -/

/-- Everything below a directory, by relative path, in the order of the paths. -/
def listing (disk : Disk) (folder : Place) : List (String × Entry) :=
  let below := disk.entries.filterMap fun entry =>
    if folder.isPrefixOf entry.1 && folder.length < entry.1.length then
      some (Path.text (entry.1.drop folder.length), entry.2)
    else none
  below.mergeSort fun a b => decide (a.1 ≤ b.1)

end Disk

end TreeInspector
