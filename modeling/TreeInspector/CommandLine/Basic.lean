import TreeInspector.CommandLine.Arguments
import TreeInspector.Document.Basic
import TreeInspector.Export.Basic
import TreeInspector.Outline.Text

/-! # The command line tool

The tool reads a tree, and possibly rule names that replace those of the tree, and prints its outline
or saves its picture. It is written over its surroundings: reading a file, suggesting a path and saving
a picture.
-/

namespace TreeInspector

namespace CommandLine

/-- What the tool needs of its surroundings. A refusal is given in words. -/
structure Surroundings (m : Type → Type) where
  read : String → m (Except String String)
  suggest : m String
  save : Bitmap → String → m (Except String Unit)

/-- What the tool prints, and its exit code. -/
structure Reply where
  code : UInt8
  out : String
  err : String
deriving DecidableEq

/-- Why a command failed, and what caused it. -/
structure Failure where
  message : String
  cause : Option String
deriving DecidableEq

/-- The reply to a failure. -/
def Failure.reply (failure : Failure) : Reply :=
  let cause := match failure.cause with
    | none => ""
    | some cause => "\nCaused by:\n    " ++ cause ++ "\n"
  ⟨1, "", "Error: " ++ failure.message ++ "\n" ++ cause⟩

/-- The reply to arguments that name no command to run. -/
def Stop.reply : Stop → Reply
  | .help topic => ⟨0, helpText topic, ""⟩
  | .version => ⟨0, versionText, ""⟩
  | .misuse => ⟨2, "", misuseText⟩

variable {m : Type → Type} [Monad m]

/-- Read a text file. -/
def readText (surroundings : Surroundings m) (path : String) : ExceptT Failure m String := do
  match ← surroundings.read path with
  | .ok text => return text
  | .error cause => throw ⟨"Open " ++ path, some cause⟩

/-- Read the tree and the rule names of a request. -/
def readSession (surroundings : Surroundings m) (request : Request) :
    ExceptT Failure m Session := do
  let text ← readText surroundings request.tree
  match Document.read text with
  | .error error => throw ⟨"Failed to parse " ++ request.tree, some (error.message text)⟩
  | .ok document =>
    let rules ← match request.ruleNames with
      | none => pure document.rules
      | some path => do pure (RuleNames.ofLines (← readText surroundings path))
    let session : Session := { root := document.root.toSource, rules }
    match request.scale with
    | none => return session
    | some scale => return session.withScale scale

/-- A crash of the tree, which a tree read from a file never has. -/
def crashFailure (crash : Crash) : Failure := ⟨crash.text, none⟩

/-- Print the outline of a session. -/
def outline (session : Session) : Except Failure String :=
  ((Outline.ofTree session.root).map fun outline => outline.text session).mapError crashFailure

/-- Save the picture of a session and tell its path and size. -/
def exportPicture (surroundings : Surroundings m) (session : Session) (output : Option String) :
    ExceptT Failure m String := do
  let view ← ExceptT.mk (pure ((View.ofSession session).mapError crashFailure))
  let path ← match output with
    | some path => pure path
    | none => surroundings.suggest
  match view.renderable.rasterize with
  | .error error => throw ⟨error.message, none⟩
  | .ok bitmap =>
    match ← surroundings.save bitmap path with
    | .error cause => throw ⟨SaveError.messageFor path cause, some cause⟩
    | .ok () => return path ++ " (" ++ view.size.text ++ ")\n"

/-- Do what is asked for and give what is printed. -/
def perform (surroundings : Surroundings m) (request : Request) : ExceptT Failure m String := do
  let session ← readSession surroundings request
  match request.command with
  | .outline => ExceptT.mk (pure (outline session))
  | .exportPng output => exportPicture surroundings session output

/-- Run the tool. -/
def run (surroundings : Surroundings m) (arguments : List String) : m Reply := do
  match Request.ofArguments arguments with
  | .error stop => return stop.reply
  | .ok request =>
    match ← (perform surroundings request).run with
    | .ok out => return ⟨0, out, ""⟩
    | .error failure => return failure.reply

end CommandLine

namespace Disk

/-- What is said about a file that is no text. -/
def notText : String := "stream did not contain valid UTF-8"

/-- The disk as the surroundings of the tool. -/
def surroundings : CommandLine.Surroundings (StateM Disk) where
  read path := do
    match (← get).read path with
    | .error refusal => return .error refusal.text
    | .ok content =>
      match content.text? with
      | some text => return .ok text
      | none => return .error notText
  suggest := return Export.defaultPath (← get)
  save bitmap path := do
    let (result, disk) := (← get).savePicture bitmap path
    set disk
    return result.mapError SaveError.cause

end Disk

end TreeInspector
