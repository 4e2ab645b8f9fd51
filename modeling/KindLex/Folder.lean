import KindLex.SystemError

/-!
# Folders held in memory

A folder is a list of files with their paths.  Opening a path walks it name by name, and fails as
the file systems of Unix do: where a name leads nowhere, where a file stands in the way, and where
the path ends at a folder.  Nothing is known of what lies outside the folder but the folders that
hold it.
-/

namespace KindLex

/-- The files below a folder, each with its path from there, name by name. -/
structure Folder where
  files : List (List String × List UInt8)

namespace Folder

/-- The names of a path: what stands between slashes. -/
def names (path : String) : List String :=
  path.splitOn "/"

/-- The folder with files at the given paths. -/
def ofFiles (files : List (String × List UInt8)) : Folder :=
  ⟨files.map fun (path, bytes) => (names path, bytes)⟩

/-- Whether a place, given by the names that lead to it, is a folder. -/
def isFolder (folder : Folder) (place : List String) : Bool :=
  place.isEmpty || folder.files.any fun (path, _) => place.isPrefixOf path && place != path

/-- Walks on outside the folder, where only folders above it are known. -/
def walkOutside (path : List String) : SystemError :=
  if path.all fun name => name == "" || name == "." || name == ".." then .isADirectory
  else .noSuchFile

/-- Walks on from a place that is a folder.  An empty name and `.` stay there; `..` goes back. -/
def walk (folder : Folder) (place : List String) : List String → Except SystemError (List UInt8)
  | []           => .error .isADirectory
  | name :: rest =>
      if name = "" ∨ name = "." then folder.walk place rest
      else if name = ".." then
        if place.isEmpty then .error (walkOutside rest) else folder.walk place.dropLast rest
      else
        let target := place ++ [name]
        match folder.files.lookup target with
        | some bytes => if rest.isEmpty then .ok bytes else .error .notADirectory
        | none =>
            if folder.isFolder target then folder.walk target rest else .error .noSuchFile

/-- The bytes of the file at a path.  The empty path leads nowhere, and a path that starts with a
    slash leads outside. -/
def read (folder : Folder) (path : String) : Except SystemError (List UInt8) :=
  match names path with
  | [""]         => .error .noSuchFile
  | "" :: others => .error (walkOutside others)
  | others       => folder.walk [] others

end Folder

end KindLex
