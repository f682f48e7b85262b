import Debugger.CommandLine.Arguments
import Debugger.Text.Columns

/-! # Help pages

Every page says what the command is for, how it is called, and what may be given, in aligned columns.
-/

namespace Debugger.CommandLine

/-- A column of what may be written, and beside it what it means. -/
abbrev Rows := List (String × String)

/-- A help page. -/
structure Page where
  about : String
  usage : String
  commands : Rows := []
  arguments : Rows := []
  options : Rows := []
  deriving Inhabited

namespace Page

/-- A part of a page, which is left out when it has no rows. -/
def part (title : String) (rows : Rows) : String :=
  if rows.isEmpty then ""
  else
    let width := (rows.map (·.1.length)).foldl max 0
    "\n" ++ title ++ ":\n" ++
      String.join (rows.map fun r => "  " ++ Text.padRight width r.1 ++ "  " ++ r.2 ++ "\n")

def text (p : Page) : String :=
  p.about ++ "\n\nUsage: " ++ p.usage ++ "\n" ++ part "Commands" p.commands ++
    part "Arguments" p.arguments ++ part "Options" p.options

end Page

/-- What a command is for. -/
def Command.about : Command → String
  | program => "Inspect and step threads of a remote Java VM over JDWP"
  | threads => "List the threads of the VM"
  | stack => "Print the stack of a suspended thread"
  | step => "Step a thread and print where it stopped"
  | help => "Print this message or the help of the given subcommand(s)"

/-- How the program is called. -/
def programName : String := "jdi"

/-- What the program says about its age. -/
def versionText : String := programName ++ " 0.1.0\n"

private def configRow : String × String :=
  ("    --config <CONFIG>", "Config file (defaults to `$JDI_CONFIG`)")

private def hostRow : String × String := ("    --host <HOST>", "Override the configured debuggee host")

private def portRow : String × String := ("    --port <PORT>", "Override the configured debuggee port")

private def helpRow : String × String := ("-h, --help", "Print help")

private def threadRow : String × String := ("<THREAD>", "Thread id as listed by `threads`")

/-- The help page of a command. -/
def Command.page (c : Command) : Page :=
  let common := [configRow, hostRow, portRow, helpRow]
  match c with
  | program =>
    { about := c.about
      usage := programName ++ " [OPTIONS] <COMMAND>"
      commands := [("threads", threads.about), ("stack", stack.about), ("step", step.about),
        ("help", help.about)]
      options := common ++ [("-V, --version", "Print version")] }
  | threads => { about := c.about, usage := programName ++ " threads [OPTIONS]", options := common }
  | stack =>
    { about := c.about
      usage := programName ++ " stack [OPTIONS] <THREAD>"
      arguments := [threadRow]
      options := common }
  | step =>
    { about := c.about
      usage := programName ++ " step [OPTIONS] <THREAD>"
      arguments := [threadRow]
      options :=
        [configRow,
          ("    --mode <MODE>", "[default: over] [possible values: over, into, return]"),
          hostRow,
          ("    --wait <WAIT>", "Seconds to wait for the step to complete [default: 30]"),
          portRow, helpRow] }
  | help =>
    { about := c.about
      usage := programName ++ " help [COMMAND]..."
      arguments := [("[COMMAND]...", "Print help for the subcommand(s)")] }

end Debugger.CommandLine
