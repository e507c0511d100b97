import Tandem.CommandLine.Invocation

/-! # Help

The texts that explain the command line. -/

namespace Tandem

/-- What `--version` prints. -/
def versionText : String := "binsync 0.1.0\n"

namespace HelpTopic

/-- An option with its explanation on the next line. -/
def option (name explanation : String) : String :=
  "      " ++ name ++ "\n          " ++ explanation ++ "\n"

/-- The option that asks for help. -/
def helpOption : String := "  -h, --help\n          Print help\n"

/-- The option that names the directory of descriptors. -/
def directoryOption : String :=
  option "--descriptor-dir <DESCRIPTOR_DIR>"
    ("Directory holding session descriptors [default: " ++ defaultDirectory ++ "]")

/-- The help on a topic. -/
def text : HelpTopic → String
  | .commands =>
    "Navigation sync and diff coloring between paired analysis sessions\n\n" ++
    "Usage: binsync <COMMAND>\n\nCommands:\n" ++
    "  serve     Run a session over an in-memory host and serve its RPC interface\n" ++
    "  call      Call an RPC method on a running session\n" ++
    "  sessions  List published session descriptors\n" ++
    "  help      Print this message or the help of the given subcommand(s)\n\n" ++
    "Options:\n  -h, --help     Print help\n  -V, --version  Print version\n"
  | .serve =>
    "Run a session over an in-memory host and serve its RPC interface\n\n" ++
    "Usage: binsync serve [OPTIONS] --fixture <FIXTURE>\n\nOptions:\n" ++
    option "--fixture <FIXTURE>" "JSON image fixture describing the analyzed binary" ++
    option "--bind-host <BIND_HOST>" "Address to bind the RPC server on [default: 127.0.0.1]" ++
    option "--base-port <BASE_PORT>"
      "First port to try; later ports are scanned upward [default: 18861]" ++
    directoryOption ++
    option "--peer-timeout-secs <PEER_TIMEOUT_SECS>"
      "Timeout for calls to peer sessions in seconds (default: none)" ++
    helpOption
  | .call =>
    "Call an RPC method on a running session\n\n" ++
    "Usage: binsync call [OPTIONS] <METHOD> [PARAMS]\n\nArguments:\n" ++
    "  <METHOD>  RPC method name (e.g. get_md5, jumpto, show_diff)\n" ++
    "  [PARAMS]  JSON params, object or array (default: \x7b\x7d)\n\nOptions:\n" ++
    option "--md5 <MD5>" "Content hash of the target session" ++
    option "--port <PORT>" "Port of the target session (skips descriptor lookup)" ++
    directoryOption ++
    option "--timeout-secs <TIMEOUT_SECS>" "Request timeout in seconds (default: none)" ++
    helpOption
  | .sessions =>
    "List published session descriptors\n\n" ++
    "Usage: binsync sessions [OPTIONS]\n\nOptions:\n" ++ directoryOption ++ helpOption
  | .help =>
    "Print this message or the help of the given subcommand(s)\n\n" ++
    "Usage: binsync help [COMMAND]...\n\nArguments:\n" ++
    "  [COMMAND]...  Print help for the subcommand(s)\n"

end HelpTopic

end Tandem
