/-! # Help texts

What the tool prints about itself and its commands.
-/

namespace TreeInspector

namespace CommandLine

/-- What help can be asked about. -/
inductive Topic where
  | tool
  | outline
  | exportPng
  | help
deriving DecidableEq

/-- The line that names the tool's version. -/
def versionText : String := "parsetree-inspector 0.1.0\n"

/-- The usage of the tool. -/
def usage : String := "Usage: parsetree-inspector [OPTIONS] <TREE_JSON> <COMMAND>\n"

/-- The help text of a topic. -/
def helpText : Topic → String
  | .tool => "Inspect a parser's syntax tree\n\n" ++ usage ++ "\n" ++
    "Commands:\n" ++
    "  outline  Print the tree as an ASCII outline; `!` marks subtrees with errors\n" ++
    "  export   Render the tree to PNG without opening a window\n" ++
    "  help     Print this message or the help of the given subcommand(s)\n\n" ++
    "Arguments:\n" ++
    "  <TREE_JSON>  JSON parse tree dump (document with `root` or a bare node)\n\n" ++
    "Options:\n" ++
    "      --rule-names <FILE>  Rule names, one per line; overrides names embedded in the dump\n" ++
    "      --scale <SCALE>      Initial view scale [default: 1.5]\n" ++
    "  -h, --help               Print help\n" ++
    "  -V, --version            Print version\n"
  | .outline => "Print the tree as an ASCII outline; `!` marks subtrees with errors\n\n" ++
    "Usage: parsetree-inspector <TREE_JSON> outline\n\n" ++
    "Options:\n" ++
    "  -h, --help  Print help\n"
  | .exportPng => "Render the tree to PNG without opening a window\n\n" ++
    "Usage: parsetree-inspector <TREE_JSON> export [OPTIONS]\n\n" ++
    "Options:\n" ++
    "  -o, --output <OUTPUT>  Output file; defaults to the first free parse_tree[_N].png in the cwd\n" ++
    "  -h, --help             Print help\n"
  | .help => "Print this message or the help of the given subcommand(s)\n\n" ++
    "Usage: parsetree-inspector <TREE_JSON> help [COMMAND]...\n\n" ++
    "Arguments:\n" ++
    "  [COMMAND]...  Print help for the subcommand(s)\n"

/-- What is printed when the arguments do not fit. -/
def misuseText : String :=
  "error: the arguments do not fit\n\n" ++ usage ++ "\nFor more information, try '--help'.\n"

end CommandLine

end TreeInspector
