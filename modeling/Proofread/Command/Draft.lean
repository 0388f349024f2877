import Proofread.Command.Invocation

set_option autoImplicit false

namespace Proofread.Command

inductive Token where
  | separator
  | long (name : List Char) (value : Option String)
  | short (letter : Char) (rest : List Char)
  | plain (text : String)
deriving DecidableEq, Repr

namespace Token

def ofLong (text : List Char) : Token :=
  match text.dropWhile (· ≠ '=') with
  | [] => long text none
  | _ :: value => long (text.takeWhile (· ≠ '=')) (some (String.ofList value))

def ofText (text : String) : Token :=
  match text.toList with
  | ['-', '-'] => separator
  | '-' :: '-' :: rest => ofLong rest
  | '-' :: letter :: rest => short letter rest
  | _ => plain text

def attachedValue? : List Char → Option String
  | [] => none
  | '=' :: value => some (String.ofList value)
  | value => some (String.ofList value)

end Token

inductive Level where
  | program
  | check
  | fixtures
deriving DecidableEq, Repr

inductive ValueOption where
  | config
  | format
  | rule
deriving DecidableEq, Repr

inductive Flag where
  | debug
  | help
  | version
deriving DecidableEq, Repr

inductive Switch where
  | value (option : ValueOption)
  | flag (flag : Flag)
deriving DecidableEq, Repr

namespace Switch

def ofName? (level : Level) (name : List Char) : Option Switch :=
  match String.ofList name, level with
  | "config", _ => some (value .config)
  | "debug", _ => some (flag .debug)
  | "help", _ => some (flag .help)
  | "version", _ => some (flag .version)
  | "format", .check => some (value .format)
  | "rule", .fixtures => some (value .rule)
  | _, _ => none

def ofLetter? : Char → Option Switch
  | 'c' => some (value .config)
  | 'h' => some (flag .help)
  | 'V' => some (flag .version)
  | _ => none

end Switch

inductive Pending where
  | nothing
  | option (option : ValueOption) (value : Option String)
  | files (names : List String)
deriving DecidableEq, Repr

structure Draft where
  level : Level
  config : Option String
  format : Option String
  rule : Option String
  files : List String
  debug : Bool
  pending : Pending
  plainOnly : Bool
deriving DecidableEq, Repr

namespace Draft

def start (level : Level) : Draft :=
  ⟨level, none, none, none, [], false, .nothing, false⟩

def value? (d : Draft) : ValueOption → Option String
  | .config => d.config
  | .format => d.format
  | .rule => d.rule

def setValue (d : Draft) (option : ValueOption) (value : String) : Draft :=
  match option with
  | .config => { d with config := some value }
  | .format => { d with format := some value }
  | .rule => { d with rule := some value }

def isValid : ValueOption → String → Bool
  | .config, value => value ≠ ""
  | .format, _ | .rule, _ => true

def keep (d : Draft) (option : ValueOption) (value : String) : Except UsageStop Draft :=
  if (d.value? option).isSome then .error .repeatedOption
  else if isValid option value then .ok (d.setValue option value)
  else .error .invalidValue

def settle (d : Draft) : Except UsageStop Draft :=
  match d.pending with
  | .nothing => .ok d
  | .option _ none => .error .invalidValue
  | .option option (some value) => { d with pending := .nothing }.keep option value
  | .files names =>
      if names.contains "" then .error .invalidValue
      else .ok { d with files := d.files ++ names, pending := .nothing }

def awaitsValue (d : Draft) : Bool :=
  match d.pending with
  | .option _ none => true
  | _ => false

def takesSubcommand (d : Draft) : Bool :=
  !d.plainOnly && !d.awaitsValue

def readFlag (d : Draft) : Flag → Except UsageStop Draft
  | .help => .error .helpRequested
  | .version => .error .versionRequested
  | .debug => if d.debug then .error .repeatedOption else .ok { d with debug := true }

def readSwitch (d : Draft) (value : Option String) : Option Switch → Except UsageStop Draft
  | none => .error .unknownArgument
  | some (.value option) =>
      match d.settle, value with
      | .error e, _ => .error e
      | .ok settled, some value => settled.keep option value
      | .ok settled, none => .ok { settled with pending := .option option none }
  | some (.flag flag) =>
      if value.isSome then .error .unexpectedValue
      else match d.settle with
        | .error e => .error e
        | .ok settled => settled.readFlag flag

def readLetter (d : Draft) (letter : Char) (rest : List Char) : Except UsageStop Draft :=
  match Switch.ofLetter? letter with
  | some (.value option) => d.readSwitch (Token.attachedValue? rest) (some (.value option))
  | other => d.readSwitch none other

def readPlain (d : Draft) (text : String) : Except UsageStop Draft :=
  match d.level with
  | .check =>
      match d.pending with
      | .files names => .ok { d with pending := .files (names ++ [text]) }
      | _ =>
          match d.settle with
          | .error e => .error e
          | .ok settled => .ok { settled with pending := .files [text] }
  | .fixtures => .error .unknownArgument
  | .program =>
      if d.plainOnly ∧ text ∈ ["check", "fixtures", "help"] then .error .unknownArgument
      else .error .unknownSubcommand

def read (d : Draft) (text : String) : Except UsageStop Draft :=
  if d.plainOnly then d.readPlain text
  else match Token.ofText text with
    | .separator => .ok { d with plainOnly := true }
    | .long name value => d.readSwitch value (Switch.ofName? d.level name)
    | .short letter rest => d.readLetter letter rest
    | .plain text =>
        match d.pending with
        | .option option none => .ok { d with pending := .option option (some text) }
        | _ => d.readPlain text

def readAll (d : Draft) : List String → Except UsageStop Draft
  | [] => .ok d
  | text :: rest =>
      match d.read text with
      | .error e => .error e
      | .ok next => next.readAll rest

/-- Settles a level whose arguments are all read. The configuration that the surroundings name must
be a path where the arguments name none. -/
def finish (surroundings : Option String) (d : Draft) : Except UsageStop Draft :=
  match d.settle with
  | .error e => .error e
  | .ok settled =>
      if settled.config.isNone ∧ surroundings = some "" then .error .invalidValue else .ok settled

end Draft

end Proofread.Command
