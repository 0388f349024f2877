import Proofread.Lint.Message

set_option autoImplicit false

namespace Proofread.Command

inductive Action where
  | check (files : List String) (format : String)
  | fixtures (rule : Option String)
deriving DecidableEq, Repr

structure Invocation where
  config : Option String
  debug : Bool
  action : Action
deriving DecidableEq, Repr

inductive UsageStop where
  | helpRequested
  | versionRequested
  | nothingGiven
  | missingSubcommand
  | unknownSubcommand
  | missingFiles
  | unknownArgument
  | repeatedOption
  | unexpectedValue
  | invalidValue
deriving DecidableEq, Repr

def UsageStop.exitCode : UsageStop → Nat
  | helpRequested | versionRequested => 0
  | _ => 2

structure Answer where
  exit : Nat
  output : String
  problems : String
deriving DecidableEq, Repr

namespace Answer

def foundCode : Nat := 1

def setupCode : Nat := 2

def isSuccess (a : Answer) : Bool :=
  a.exit = 0

end Answer

def lines (texts : List String) : String :=
  String.join (texts.map (· ++ "\n"))

def version : String := "0.4.0"

def usage : String :=
  lines [
    "Usage:",
    "  check [--format human|json] FILE...   lint files",
    "  fixtures [--rule ID]                  check the rules against their fixtures",
    "Options:",
    "  -c, --config PATH   take this configuration",
    "      --debug         show what happens",
    "  -h, --help          show this text",
    "  -V, --version       show the version"]

namespace UsageStop

def fault? : UsageStop → Option String
  | helpRequested | versionRequested | nothingGiven => none
  | missingSubcommand => some "a subcommand is missing"
  | unknownSubcommand => some "there is no such subcommand"
  | missingFiles => some "no files are given"
  | unknownArgument => some "there is no such argument"
  | repeatedOption => some "an option is given more than once"
  | unexpectedValue => some "an option has a value that takes none"
  | invalidValue => some "a value is missing or empty"

def text : UsageStop → String
  | versionRequested => Lint.engineTag ++ " " ++ version ++ "\n"
  | stop =>
      match stop.fault? with
      | none => usage
      | some fault => "Error: " ++ fault ++ "\n" ++ usage

end UsageStop

end Proofread.Command
