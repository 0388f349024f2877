import Proofread.Files.View

set_option autoImplicit false

namespace Proofread.Files

inductive FileTree where
  | file (bytes : ByteArray)
  | directory (entries : List (String × FileTree))

namespace FileTree

def empty : FileTree :=
  directory []

def entries : FileTree → List (String × FileTree)
  | directory entries => entries
  | file _ => []

def putEntry (name : String) (tree : FileTree) (entries : List (String × FileTree)) :
    List (String × FileTree) :=
  (name, tree) :: entries.filter (·.1 ≠ name)

def replaceBy (new old : FileTree) : FileTree :=
  match new, old with
  | directory [], directory entries => directory entries
  | new, _ => new

def putAt (new : FileTree) : List String → FileTree → FileTree
  | [], old => replaceBy new old
  | name :: rest, old =>
      let below := (old.entries.lookup name).getD empty
      directory (putEntry name (putAt new rest below) old.entries)

def put (path : String) (new tree : FileTree) : FileTree :=
  putAt new ((pathNames path).filter fun name => name ≠ "" && name ≠ ".") tree

def nameLimit : Nat := 255

def pathLimit : Nat := 4095

def walk (above : List FileTree) : FileTree → List String → Except FileFault FileTree
  | here, [] => .ok here
  | file _, _ :: _ => .error .notDirectory
  | directory entries, name :: rest =>
      if name = "" ∨ name = "." then walk above (directory entries) rest
      else if name = ".." then
        match above with
        | [] => walk [] empty rest
        | up :: more => walk more up rest
      else if nameLimit < name.utf8ByteSize then .error .nameTooLong
      else match entries.lookup name with
        | none => .error .notFound
        | some next => walk (directory entries :: above) next rest

def resolve (tree : FileTree) (path : String) : Except FileFault FileTree :=
  if path.toList.contains '\x00' then .error .zeroByteInName
  else if path = "" then .error .notFound
  else if pathLimit < path.utf8ByteSize then .error .nameTooLong
  else walk [] (if isAbsolute path then empty else tree) (pathNames path)

def isFile (tree : FileTree) (path : String) : Bool :=
  match tree.resolve path with
  | .ok (file _) => true
  | _ => false

def read (tree : FileTree) (path : String) : Except FileFault String :=
  match tree.resolve path with
  | .error fault => .error fault
  | .ok (directory _) => .error .isDirectory
  | .ok (file bytes) =>
      match String.fromUTF8? bytes with
      | some text => .ok text
      | none => .error .notText

def view (tree : FileTree) : FileView :=
  ⟨tree.isFile, tree.read⟩

end FileTree

end Proofread.Files
