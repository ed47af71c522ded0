import TreeInspector.CommandLine.Help
import TreeInspector.Number.Decimal
import TreeInspector.Session

/-! # Reading arguments

The arguments are a tree file, options and a command with options of its own. An option's value is
joined to it or is the next argument, which must not look like an option. A value that was the next
argument is looked at only when the following option or file comes, or at the end: a command read in
between comes first. Two dashes end options and commands.
-/

namespace TreeInspector

namespace CommandLine

/-- Why no command is run. -/
inductive Stop where
  | help (topic : Topic)
  | version
  | misuse
deriving DecidableEq

/-- The options that take a value. -/
inductive OptionName where
  | ruleNames
  | scale
  | output
deriving DecidableEq

/-- What an option does. -/
inductive Switch where
  | help
  | version
  | value (name : OptionName)
deriving DecidableEq

/-- The arguments a command takes: its help, its options, the words that name further commands, and
how many arguments that are not options. -/
structure Spec where
  topic : Topic
  long : List (String × Switch)
  short : List (Char × Switch)
  commands : List String
  operands : Nat

/-- The tool's own arguments. -/
def toolSpec : Spec where
  topic := .tool
  long := [("rule-names", .value .ruleNames), ("scale", .value .scale), ("help", .help),
    ("version", .version)]
  short := [('h', .help), ('V', .version)]
  commands := ["outline", "export", "help"]
  operands := 1

/-- The arguments of the outline command. -/
def outlineSpec : Spec := ⟨.outline, [("help", .help)], [('h', .help)], [], 0⟩

/-- The arguments of the export command. -/
def exportSpec : Spec where
  topic := .exportPng
  long := [("output", .value .output), ("help", .help)]
  short := [('o', .value .output), ('h', .help)]
  commands := []
  operands := 0

/-- What was read so far: the values of options, an option whose value is not looked at or not even
given yet, and the arguments that are not options. -/
structure Reading where
  values : List (OptionName × String)
  pending : Option (OptionName × Option String)
  operands : List String

namespace Reading

/-- Nothing was read. -/
def empty : Reading := ⟨[], none, []⟩

/-- Whether the next argument is the value of an option. -/
def isWaiting (reading : Reading) : Bool :=
  match reading.pending with
  | some (_, none) => true
  | _ => false

/-- Take over the value of an option, which is given at most once; a scale is a number. -/
def accept (name : OptionName) (value : String) (reading : Reading) : Except Stop Reading :=
  if (reading.values.lookup name).isSome then .error .misuse
  else if name = .scale && (Single.read? value).isNone then .error .misuse
  else .ok { reading with values := reading.values ++ [(name, value)] }

/-- Look at the value of the last option. -/
def settle (reading : Reading) : Except Stop Reading :=
  match reading.pending with
  | none => .ok reading
  | some (_, none) => .error .misuse
  | some (name, some value) => ({ reading with pending := none } : Reading).accept name value

/-- An option is met, with a value joined to it or without one. -/
def meet (topic : Topic) (switch : Switch) (joined : Option String) (reading : Reading) :
    Except Stop Reading :=
  match switch, joined with
  | .value name, some value => do (← reading.settle).accept name value
  | .value name, none => do return { ← reading.settle with pending := some (name, none) }
  | _, some _ => .error .misuse
  | .help, none => do
    let _ ← reading.settle
    throw (.help topic)
  | .version, none => do
    let _ ← reading.settle
    throw .version

/-- A long option is met; an equals sign joins a value to it. -/
def meetLong (spec : Spec) (text : List Char) (reading : Reading) : Except Stop Reading :=
  let name := String.ofList (text.takeWhile (· != '='))
  let joined := match text.dropWhile (· != '=') with
    | [] => none
    | _ :: value => some (String.ofList value)
  match spec.long.lookup name with
  | none => .error .misuse
  | some switch => reading.meet spec.topic switch joined

/-- Short options are met, one letter each; what follows a letter that takes a value is the value,
after an equals sign if there is one. -/
def meetShort (spec : Spec) (text : List Char) (reading : Reading) : Except Stop Reading :=
  match text with
  | [] => .ok reading
  | letter :: rest =>
    match spec.short.lookup letter, rest with
    | none, _ => .error .misuse
    | some (.value name), [] => reading.meet spec.topic (.value name) none
    | some (.value name), '=' :: value =>
      reading.meet spec.topic (.value name) (some (String.ofList value))
    | some (.value name), value =>
      reading.meet spec.topic (.value name) (some (String.ofList value))
    | some switch, rest => do (← reading.meet spec.topic switch none).meetShort spec rest
termination_by structural text

/-- An argument that is not an option is met. -/
def meetOperand (spec : Spec) (argument : String) (reading : Reading) : Except Stop Reading := do
  let settled ← reading.settle
  if settled.operands.length < spec.operands then
    return { settled with operands := settled.operands ++ [argument] }
  else throw .misuse

/-- An argument that names no command is met. -/
def meetArgument (spec : Spec) (argument : String) (reading : Reading) : Except Stop Reading :=
  match argument.toList, reading.pending with
  | '-' :: '-' :: text, _ => reading.meetLong spec text
  | '-' :: letter :: text, _ => reading.meetShort spec (letter :: text)
  | _, some (name, none) => .ok { reading with pending := some (name, some argument) }
  | _, _ => reading.meetOperand spec argument

end Reading

/-- Read the arguments of a command up to the end or up to the name of a further command, which is
given together with what follows it. -/
def readArguments (spec : Spec) :
    Reading → List String → Except Stop (Reading × Option (String × List String))
  | reading, [] => .ok (reading, none)
  | reading, argument :: rest =>
    if !reading.isWaiting && spec.commands.contains argument then
      .ok (reading, some (argument, rest))
    else if argument = "--" then do
      return (← rest.foldlM (fun reading operand => reading.meetOperand spec operand) reading, none)
    else do readArguments spec (← reading.meetArgument spec argument) rest

/-- Read the arguments of a command that has no further commands. -/
def readAll (spec : Spec) (arguments : List String) : Except Stop Reading := do
  (← readArguments spec .empty arguments).1.settle

/-- The topic that help is asked about. -/
def topicOf : List String → Except Stop Topic
  | [] => .ok .tool
  | ["outline"] => .ok .outline
  | ["export"] => .ok .exportPng
  | ["help"] => .ok .help
  | _ => .error .misuse

/-- A command to run. -/
inductive Command where
  | outline
  | exportPng (output : Option String)
deriving DecidableEq

/-- Read a command by its name and the arguments that follow it. -/
def readCommand (name : String) (arguments : List String) : Except Stop Command := do
  match name with
  | "outline" =>
    let _ ← readAll outlineSpec arguments
    return .outline
  | "export" => return .exportPng ((← readAll exportSpec arguments).values.lookup .output)
  | _ => throw (.help (← topicOf arguments))

/-- What the tool is asked to do: the tree file, the file of rule names, the scale and the command. -/
structure Request where
  tree : String
  ruleNames : Option String
  scale : Option Single
  command : Command

namespace Request

/-- Read the arguments of the tool. The command is read before the last option of the tool itself is
looked at. -/
def ofArguments (arguments : List String) : Except Stop Request := do
  let (reading, command) ← readArguments toolSpec .empty arguments
  match command with
  | none => throw .misuse
  | some (name, rest) =>
    let command ← readCommand name rest
    let settled ← reading.settle
    match settled.operands with
    | [] => throw .misuse
    | tree :: _ =>
      return {
        tree
        ruleNames := settled.values.lookup .ruleNames
        scale := (settled.values.lookup .scale).bind Single.read?
        command }

end Request

end CommandLine

end TreeInspector
