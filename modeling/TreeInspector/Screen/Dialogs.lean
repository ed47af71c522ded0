import TreeInspector.Export.Basic
import TreeInspector.Text.Blank

/-! # Dialogs of a window

An export asks for a path in a prompt that stays open over frames: saving over something that exists
has to be asked for twice, with the path unchanged in between. Outcomes worth telling wait as notices,
the first of which is shown.
-/

namespace TreeInspector

/-- The prompt of an export: the picture to save, the typed text, and whether the user was told that
something exists there. -/
structure SavePrompt where
  pending : Export.Pending
  text : String
  warned : Bool

/-- What the user does to a prompt in one frame. -/
structure PromptInput where
  edit : Option String
  save : Bool
  cancel : Bool

namespace PromptInput

/-- The prompt is left alone. -/
def none : PromptInput := ⟨.none, false, false⟩

end PromptInput

namespace SavePrompt

/-- The prompt for a picture, with the suggested path typed in. -/
def ofPending (pending : Export.Pending) : SavePrompt := ⟨pending, pending.suggested, false⟩

/-- The path that is typed in, if the text is not blank. -/
def choice? (prompt : SavePrompt) : Option String :=
  match Blank.trim prompt.text.toList with
  | [] => none
  | first :: rest => some (String.ofList (first :: rest))

/-- Whether something exists at the typed path. -/
def hits (prompt : SavePrompt) (disk : Disk) : Bool := prompt.choice?.any disk.has

/-- Whether the prompt asks to replace what exists. -/
def asksToReplace (prompt : SavePrompt) (disk : Disk) : Bool := prompt.hits disk && prompt.warned

/-- The title of every prompt. -/
def title : String := "Save PNG"

/-- Take over an edit; any edit takes the warning back. -/
def applyEdit (prompt : SavePrompt) : Option String → SavePrompt
  | none => prompt
  | some text => { prompt with text, warned := false }

/-- How a frame ends for a prompt: still open, or answered with a path or with none. -/
inductive Step where
  | stay (prompt : SavePrompt)
  | answer (prompt : SavePrompt) (choice : Option String)

/-- Let a frame happen to a prompt. Saving is possible only with a path, the first time over
something that exists only warns, and cancelling wins. -/
def step (prompt : SavePrompt) (input : PromptInput) (disk : Disk) : Step :=
  let prompt := prompt.applyEdit input.edit
  let saves := input.save && prompt.choice?.isSome
  let warns := saves && prompt.hits disk && !prompt.warned
  if input.cancel then .answer prompt none
  else if warns then .stay { prompt with warned := true }
  else if saves then .answer prompt prompt.choice?
  else .stay prompt

end SavePrompt

/-- The dialogs of a window: the prompt of an export and the notices not yet dismissed. -/
structure Dialogs where
  prompt : Option SavePrompt
  notices : List Notice

/-- What the user does to the dialogs in one frame. -/
structure DialogInput extends PromptInput where
  dismiss : Bool

namespace Dialogs

/-- No dialog. -/
def none : Dialogs := ⟨.none, []⟩

/-- Whether a dialog is open. -/
def isModal (dialogs : Dialogs) : Bool := dialogs.prompt.isSome || !dialogs.notices.isEmpty

/-- Queue a notice, if there is one. -/
def notify (notice : Option Notice) (dialogs : Dialogs) : Dialogs :=
  { dialogs with notices := dialogs.notices ++ notice.toList }

/-- Start an export: open its prompt, over an open one if need be, or tell why it failed. -/
def beginExport (view : Renderable) (disk : Disk) (dialogs : Dialogs) : Dialogs :=
  match Export.start view disk with
  | .ok pending => { dialogs with prompt := some (.ofPending pending) }
  | .error error => dialogs.notify (Export.Outcome.failed error).notice?

/-- Let a frame happen to the prompt, encoding the picture as an encoder does. Gives the folders that
were asked to be shown. -/
def promptFrameBy (encoder : Encoder) (input : PromptInput) (revealer : Revealer) (disk : Disk)
    (dialogs : Dialogs) : Dialogs × List String × Disk :=
  match dialogs.prompt with
  | .none => (dialogs, [], disk)
  | some prompt =>
    match prompt.step input disk with
    | .stay prompt => ({ dialogs with prompt := some prompt }, [], disk)
    | .answer prompt choice =>
      let answered := prompt.pending.finishBy encoder choice revealer disk
      (({ dialogs with prompt := .none } : Dialogs).notify answered.outcome.notice?,
        answered.folders, answered.disk)

/-- The titles of the dialogs that are drawn: the prompt's and that of the first notice. -/
def titles (prompt : Option SavePrompt) (notices : List Notice) : List String :=
  (prompt.map fun _ => SavePrompt.title).toList ++ (notices.head?.map Notice.title).toList

/-- Let a frame happen to the notices. -/
def noticeFrame (dismiss : Bool) (dialogs : Dialogs) : Dialogs :=
  if dismiss then { dialogs with notices := dialogs.notices.drop 1 } else dialogs

end Dialogs

end TreeInspector
