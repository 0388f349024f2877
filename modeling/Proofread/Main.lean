import Proofread.Command.Run

set_option autoImplicit false

namespace Proofread.Main

open Files (FileFault FileView)
open Lint (LogLevel)

def configVariable : String := "MARKLINT_CONFIG"

def faultOf : IO.Error → FileFault
  | .inappropriateType _ code _ => if code = 21 then .isDirectory else .notDirectory
  | .permissionDenied _ _ _ => .accessDenied
  | .invalidArgument _ _ _ => .nameTooLong
  | _ => .notFound

def readText (path : String) : IO (Except FileFault String) := do
  try
    match String.fromUTF8? (← IO.FS.readBinFile path) with
    | some text => return .ok text
    | none => return .error .notText
  catch e => return .error (faultOf e)

def isFound : Except FileFault String → Bool
  | .ok _ | .error .notText | .error .accessDenied => true
  | .error _ => false

def viewOf (found : List (String × Except FileFault String)) : FileView :=
  let read := fun path => (found.lookup path).getD (.error .notFound)
  ⟨fun path => isFound (read path), read⟩

def run (i : Command.Invocation) : IO UInt32 := do
  let root := (← IO.currentDir).toString
  let found ← (i.paths root).mapM fun path => return (path, ← readText path)
  let view := viewOf found
  for event in i.runLog view root do
    if i.debug || event.level = LogLevel.warn then IO.eprintln event.render
  match i.run view root with
  | .ok answer =>
      IO.print answer.output
      IO.eprint answer.problems
      return UInt32.ofNat answer.exit
  | .error e =>
      IO.eprintln ("Error: " ++ e.message)
      return UInt32.ofNat e.exitCode

end Proofread.Main

def main (arguments : List String) : IO UInt32 := do
  let surroundings ← IO.getEnv Proofread.Main.configVariable
  match Proofread.Command.Invocation.ofArguments surroundings arguments with
  | .ok invocation => Proofread.Main.run invocation
  | .error stop =>
      IO.eprint stop.text
      return UInt32.ofNat stop.exitCode
