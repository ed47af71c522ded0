import TreeInspector.Storage.Disk
import TreeInspector.Text.Quoted

/-! # Saving pictures

A picture is written to a temporary file beside its target, which then moves over the target: either
the whole picture appears at its path or the disk stays as it was.
-/

namespace TreeInspector

/-- An encoder of pictures: it gives the content of a bitmap's file or says why there is none. -/
abbrev Encoder := Bitmap → Except String Content

/-- The encoder of picture files, which takes every bitmap. -/
def Png.encoder : Encoder := fun bitmap => .ok (.picture bitmap)

/-- Why a picture could not be saved: it could not be encoded, or the disk refused it at a path. Some
refusals are about a temporary file. -/
inductive SaveError where
  | encoding (words : String)
  | writing (path : String) (refusal : Refusal) (temporary : Option String)
deriving DecidableEq

namespace SaveError

/-- What the encoder or the disk said. -/
def cause : SaveError → String
  | .encoding words => words
  | .writing _ refusal none => refusal.text
  | .writing _ refusal (some temporary) => refusal.text ++ " at path " ++ Quoted.quote temporary

/-- The message for a picture that could not be saved at a path for a cause. -/
def messageFor (path cause : String) : String := "cannot write " ++ path ++ ": " ++ cause

/-- The message for a picture that could not be saved. -/
def message (error : SaveError) : String :=
  match error with
  | .encoding words => "PNG encoding failed: " ++ words
  | .writing path _ _ => messageFor path error.cause

end SaveError

namespace Disk

/-- The folder a file at a path is written in. -/
def folderOf (path : String) : String :=
  match Path.parent? path with
  | none | some "" => "."
  | some folder => folder

/-- The full path of a file that is written for a path under a temporary name, if there is one. -/
def temporaryPath? (disk : Disk) (path name : String) : Option String :=
  (disk.fullPath (folderOf path) name).toOption

/-- Save content at a path. Whatever is refused, the temporary file is gone afterwards. -/
def save (content : Content) (path : String) (disk : Disk) : Except SaveError Unit × Disk :=
  match disk.createTemporary (folderOf path) with
  | .error refusal =>
    (.error (.writing path refusal (disk.temporaryPath? path (temporaryName 0))), disk)
  | .ok (place, created) =>
    match created.fill place content with
    | .error refusal =>
      (.error (.writing path refusal (disk.temporaryPath? path (place.getLast?.getD ""))),
        created.remove place)
    | .ok filled =>
      match filled.move place path with
      | .error refusal => (.error (.writing path refusal none), filled.remove place)
      | .ok moved => (.ok (), moved)

/-- Save a picture, as an encoder gives it, at a path. -/
def savePictureBy (encoder : Encoder) (bitmap : Bitmap) (path : String) (disk : Disk) :
    Except SaveError Unit × Disk :=
  match encoder bitmap with
  | .error words => (.error (.encoding words), disk)
  | .ok content => disk.save content path

/-- Save a picture at a path. -/
def savePicture : Bitmap → String → Disk → Except SaveError Unit × Disk := savePictureBy Png.encoder

end Disk

end TreeInspector
