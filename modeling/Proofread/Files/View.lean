set_option autoImplicit false

namespace Proofread.Files

inductive FileFault where
  | notFound
  | notDirectory
  | isDirectory
  | accessDenied
  | nameTooLong
  | zeroByteInName
  | notText
deriving DecidableEq, Repr

def FileFault.message : FileFault → String
  | notFound => "No such file or directory (os error 2)"
  | accessDenied => "Permission denied (os error 13)"
  | notDirectory => "Not a directory (os error 20)"
  | isDirectory => "Is a directory (os error 21)"
  | nameTooLong => "File name too long (os error 36)"
  | zeroByteInName => "file name contained an unexpected NUL byte"
  | notText => "stream did not contain valid UTF-8"

/-- The state of a file system, by paths. A path may name a regular file that cannot be read. -/
structure FileView where
  isFile : String → Bool
  read : String → Except FileFault String

def splitSlashes : List Char → List (List Char)
  | [] => [[]]
  | c :: rest =>
      if c = '/' then [] :: splitSlashes rest
      else match splitSlashes rest with
        | [] => [[c]]
        | name :: names => (c :: name) :: names

def pathNames (path : String) : List String :=
  (splitSlashes path.toList).map String.ofList

def isAbsolute (path : String) : Bool :=
  path.toList.head? = some '/'

/-- Whether a name leads somewhere. The names before it are in reverse order. -/
def countsAfter (before : List String) (name : String) : Bool :=
  name ≠ "" && (name ≠ "." || before.isEmpty)

def trimNames : List String → List String
  | [] => []
  | name :: before => if countsAfter before name then name :: before else trimNames before

/-- A path in reverse order as text. Nothing is left of the top of an absolute path but its slash. -/
def renderNames (absolute : Bool) : List String → String
  | [] => if absolute then "/" else ""
  | names => "/".intercalate names.reverse

def parentsOf (absolute : Bool) : List String → List String
  | [] => []
  | name :: before =>
      if countsAfter before name then
        renderNames absolute (trimNames before) :: parentsOf absolute before
      else parentsOf absolute before

def parents (path : String) : List String :=
  parentsOf (isAbsolute path) (pathNames path).reverse

def join (directory name : String) : String :=
  match directory.toList.getLast? with
  | none => name
  | some '/' => directory ++ name
  | some _ => directory ++ "/" ++ name

end Proofread.Files
