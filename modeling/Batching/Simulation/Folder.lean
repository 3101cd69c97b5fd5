import Batching.Files

namespace Batching.Simulation

/-! A folder of files with an empty folder in it, and what a path leads to there. -/

structure Folder where
  entries : List (String × ByteArray) := []
  /-- The name of the empty folder. -/
  inner : String := "sub"

namespace Folder

/-- What a path leads to.  Nothing is known of the places outside the folder. -/
inductive Place where
  | here
  | inside
  | outside
  | file (bytes : ByteArray)

/-- The longest name and the longest path, in bytes. -/
def longestName : Nat := 255

def longestPath : Nat := 4095

def follow (folder : Folder) (place : Place) (part : String) : Except ReadFault Place :=
  match place with
  | .file _ => .error .notDirectory
  | _ =>
      if part.isEmpty || part == "." then .ok place
      else if part == ".." then
        match place with
        | .inside => .ok .here
        | _ => .ok .outside
      else if longestName < part.utf8ByteSize then .error .nameTooLong
      else
        match place with
        | .here =>
            match folder.entries.lookup part with
            | some bytes => .ok (.file bytes)
            | none => if part == folder.inner then .ok .inside else .error .notFound
        | _ => .error .notFound

def files (folder : Folder) : Files := fun path => do
  if path.contains '\x00' then throw .nulInPath
  if path.isEmpty then throw .notFound
  if longestPath < path.utf8ByteSize then throw .nameTooLong
  let start := if path.startsWith "/" then Place.outside else Place.here
  match ← (path.splitOn "/").foldlM folder.follow start with
  | .file bytes => return bytes
  | _ => throw .isDirectory

end Folder

end Batching.Simulation
