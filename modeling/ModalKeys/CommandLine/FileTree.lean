import ModalKeys.CommandLine.Program

/-!
# Described files

A file tree by the paths in it, as a host for the program. Paths are found the way an operating
system finds them: from name to name, where every name but the last has to be that of a directory.
-/

namespace ModalKeys

abbrev FileContents := Except FileFault String

structure FileTree where
  directories : List (List String)
  files : List (List String × FileContents)

namespace FileTree

/-- What there is at the end of a path. A place that is free is in a directory. -/
inductive Place where
  | directory
  | file (contents : FileContents)
  | free

def nameLimit : Nat := 255

def pathLimit : Nat := 4095

def follow (tree : FileTree) : List String → List String → Except FileFault Place
  | _, [] => .ok .directory
  | directory, name :: rest =>
      if name = "" ∨ name = "." then follow tree directory rest
      else if name = ".." then follow tree directory.dropLast rest
      else if nameLimit < name.utf8ByteSize then .error .nameTooLong
      else
        let path := directory ++ [name]
        if path ∈ tree.directories then follow tree path rest
        else
          match tree.files.lookup path with
          | some contents => if rest.isEmpty then .ok (.file contents) else .error .notDirectory
          | none => if rest.isEmpty then .ok .free else .error .missing

def place (tree : FileTree) (path : String) : Except FileFault Place :=
  if path.isEmpty then .error .missing
  else if pathLimit < path.utf8ByteSize then .error .nameTooLong
  else tree.follow [] (path.splitOn "/")

def contents (tree : FileTree) (path : String) : FileContents :=
  match tree.place path with
  | .error fault => .error fault
  | .ok .directory => .error .isDirectory
  | .ok (.file contents) => contents
  | .ok .free => .error .missing

def parentNames (path : String) : List String :=
  (((path.splitOn "/").reverse.dropWhile String.isEmpty).drop 1).reverse

/-- Why a file cannot be made. A path that ends in a slash is that of a directory. -/
def makeFault? (tree : FileTree) (path : String) : Option FileFault :=
  if path.endsWith "/" then
    match tree.follow [] (parentNames path) with
    | .error fault => some fault
    | .ok .directory => some .isDirectory
    | .ok (.file _) => some .notDirectory
    | .ok .free => some .missing
  else
    match tree.place path with
    | .error fault => some fault
    | .ok .directory => some .isDirectory
    | .ok (.file _) | .ok .free => none

/-- The tree as a host; the given function makes every path absolute. -/
def host (tree : FileTree) (absolute : String → String) (environment : Environment)
    (usualLogPath : String) : Host Id where
  environment := environment
  contents path := tree.contents (absolute path)
  makeFile path := tree.makeFault? (absolute path)
  usualLogPath := usualLogPath

end FileTree

end ModalKeys
