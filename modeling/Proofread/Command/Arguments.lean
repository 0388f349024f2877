import Proofread.Command.Draft

set_option autoImplicit false

namespace Proofread.Command

def standardFormat : String := "human"

inductive Subcommand where
  | check
  | fixtures
deriving DecidableEq, Repr

namespace Subcommand

def ofName? (name : String) : Option Subcommand :=
  if name = "check" then some .check
  else if name = "fixtures" then some .fixtures
  else none

def level : Subcommand → Level
  | check => .check
  | fixtures => .fixtures

def action (s : Subcommand) (d : Draft) : Except UsageStop Action :=
  match s with
  | check =>
      if d.files.isEmpty then .error .missingFiles
      else .ok (.check d.files (d.format.getD standardFormat))
  | fixtures => .ok (.fixtures d.rule)

def read (s : Subcommand) (surroundings : Option String) (arguments : List String) :
    Except UsageStop (Draft × Action) :=
  match (Draft.start s.level).readAll arguments with
  | .error e => .error e
  | .ok d =>
      match d.finish surroundings with
      | .error e => .error e
      | .ok d => (s.action d).map fun action => (d, action)

end Subcommand

def isSubcommandName (name : String) : Bool :=
  (Subcommand.ofName? name).isSome || name = "help"

def helpStop : List String → UsageStop
  | [] => .helpRequested
  | [name] => if isSubcommandName name then .helpRequested else .unknownSubcommand
  | _ => .unknownSubcommand

namespace Invocation

def ofSubcommand (surroundings : Option String) (front : Draft) (s : Subcommand)
    (arguments : List String) : Except UsageStop Invocation :=
  match s.read surroundings arguments with
  | .error e => .error e
  | .ok (behind, action) =>
      match front.finish surroundings with
      | .error e => .error e
      | .ok front =>
          .ok ⟨(behind.config.or front.config).or surroundings, front.debug || behind.debug, action⟩

def missing (surroundings : Option String) (front : Draft) : UsageStop :=
  match front.finish surroundings with
  | .error e => e
  | .ok front =>
      if front.config.isSome || surroundings.isSome || front.debug then .missingSubcommand
      else .nothingGiven

def readFrom (surroundings : Option String) (front : Draft) :
    List String → Except UsageStop Invocation
  | [] => .error (missing surroundings front)
  | text :: rest =>
      let next :=
        match front.read text with
        | .error e => .error e
        | .ok front => readFrom surroundings front rest
      if front.takesSubcommand then
        match Subcommand.ofName? text with
        | some s => ofSubcommand surroundings front s rest
        | none => if text = "help" then .error (helpStop rest) else next
      else next

def ofArguments (surroundings : Option String) (arguments : List String) :
    Except UsageStop Invocation :=
  readFrom surroundings (.start .program) arguments

end Invocation

end Proofread.Command
