import TreeInspector.Export.Save
import TreeInspector.Export.Target

/-! # Exporting a view

An export rasterizes the view, asks where to save the picture, saves it and shows the folder. Only
the question can cancel it. A picture that was saved stays saved even if its folder cannot be shown:
then a notice names the file.
-/

namespace TreeInspector

/-- Whether a notice tells or warns. -/
inductive NoticeKind where
  | info
  | error
deriving DecidableEq

/-- A message to the user. -/
structure Notice where
  kind : NoticeKind
  title : String
  message : String
deriving DecidableEq

/-- Why a folder could not be shown. -/
inductive RevealError where
  | noParent (path : String)
  | launch (program : String) (refusal : Refusal)
  | unsupported
deriving DecidableEq

/-- The message for a folder that could not be shown. -/
def RevealError.message : RevealError → String
  | .noParent path => path ++ " has no containing folder"
  | .launch program refusal =>
    "failed to launch file manager `" ++ program ++ "`: " ++ refusal.text
  | .unsupported => "revealing folders is not supported on this platform"

/-- A way to show a folder. -/
abbrev Revealer := String → Except RevealError Unit

/-- Show folders with the desktop's own program, which may be missing. -/
def systemRevealer (installed : Bool) : Revealer := fun _ =>
  if installed then .ok () else .error (.launch "xdg-open" .notFound)

/-- Why an export failed. -/
inductive ExportError where
  | render (error : RenderError)
  | save (error : SaveError)
deriving DecidableEq

/-- The message for a failed export. -/
def ExportError.message : ExportError → String
  | .render error => error.message
  | .save error => error.message

namespace Export

/-- How an export ended. -/
inductive Outcome where
  | cancelled
  | saved (path : String) (revealed : Bool)
  | failed (error : ExportError)
deriving DecidableEq

namespace Outcome

/-- What to tell the user: a failure, or where the file is if its folder is not shown. -/
def notice? : Outcome → Option Notice
  | .cancelled | .saved _ true => none
  | .saved path false => some ⟨.info, "Export", "Saved PNG to: " ++ path⟩
  | .failed error => some ⟨.error, "Error", "Could not export to PNG: " ++ error.message⟩

/-- Whether a file was saved. -/
def isSaved : Outcome → Bool
  | .saved .. => true
  | .cancelled | .failed _ => false

end Outcome

/-- A picture that waits for the answer where to save it. -/
structure Pending where
  bitmap : Bitmap
  suggested : String

/-- Rasterize a view and suggest a free path. -/
def start (view : Renderable) (disk : Disk) : Except ExportError Pending :=
  match view.rasterize with
  | .error error => .error (.render error)
  | .ok bitmap => .ok ⟨bitmap, defaultPath disk⟩

/-- What answering the question did: the outcome, the folders that were asked to be shown, and the
disk afterwards. -/
structure Answered where
  outcome : Outcome
  folders : List String
  disk : Disk

/-- Show the folder of a saved file. -/
def reveal (revealer : Revealer) (path : String) : Bool × List String :=
  match Path.parent? path with
  | none => (false, [])
  | some folder => ((revealer folder).isOk, [folder])

namespace Pending

/-- Complete an export with the answer, encoding the picture as an encoder does; no path cancels it.
The saved file is reported by its place, links and dots resolved. -/
def finishBy (encoder : Encoder) (pending : Pending) (choice : Option String) (revealer : Revealer)
    (disk : Disk) : Answered :=
  match choice with
  | none => ⟨.cancelled, [], disk⟩
  | some path =>
    match disk.savePictureBy encoder pending.bitmap path with
    | (.error error, disk) => ⟨.failed (.save error), [], disk⟩
    | (.ok (), disk) =>
      let path := (disk.canonical path).toOption.getD path
      let (revealed, folders) := reveal revealer path
      ⟨.saved path revealed, folders, disk⟩

/-- Complete an export with the answer. -/
def finish : Pending → Option String → Revealer → Disk → Answered := finishBy Png.encoder

end Pending

/-- All that a complete export did. -/
structure Report extends Answered where
  asked : List String
  notices : List Notice

/-- Run a complete export with a prompt that answers the suggested path, encoding the picture as an
encoder does. -/
def runBy (encoder : Encoder) (view : Renderable) (prompt : String → Option String)
    (revealer : Revealer) (disk : Disk) : Report :=
  match start view disk with
  | .error error =>
    let outcome := Outcome.failed error
    { outcome, folders := [], disk, asked := [], notices := outcome.notice?.toList }
  | .ok pending =>
    let answered := pending.finishBy encoder (prompt pending.suggested) revealer disk
    { answered with asked := [pending.suggested], notices := answered.outcome.notice?.toList }

/-- Run a complete export with a prompt that answers the suggested path. -/
def run : Renderable → (String → Option String) → Revealer → Disk → Report := runBy Png.encoder

end Export

end TreeInspector
