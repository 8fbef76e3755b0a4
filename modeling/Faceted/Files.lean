import Faceted.KeyMap
import Faceted.Text.Split

/-!
# Files

Data and settings are read from text files that are known by their paths. A file also has a location,
its absolute path without links and dots; what is read from a file gets URIs below the directory of
its location.

`Folder` is a directory of text files that is kept in memory.
-/

namespace Faceted

open Faceted.Text

/-! ## 1. Files by path -/

structure TextFile where
  text : String
  location : String
  deriving DecidableEq, Repr

/-- The files that can be read, by the paths that name them. -/
abbrev Files := String → Option TextFile

/-! ## 2. Paths -/

namespace Path

/-- The names in a path, without empty ones. -/
def names (path : String) : List String :=
  ((splitOn '/' path.toList).map String.ofList).filter fun name => !name.isEmpty

/-- What a path starts with before its first name: the root, or the directory it is relative to. -/
def splitStart : List Char → List Char × List Char
  | '/' :: rest => (['/'], rest)
  | ['.'] => (['.'], [])
  | '.' :: '/' :: rest => (['.'], '/' :: rest)
  | path => ([], path)

/-- Drops the parts at the end that name nothing. -/
def trimmedParts (parts : List (List Char)) : List (List Char) :=
  (parts.reverse.dropWhile fun part => part.isEmpty || part == ['.']).reverse

/-- The path without its last name. -/
def parent (path : String) : String :=
  let (start, rest) := splitStart path.toList
  let parts := trimmedParts (trimmedParts (splitOn '/' rest)).dropLast
  String.ofList (start ++ join '/' parts)

/-- A path with slashes only. -/
def withSlashes (path : String) : List Char :=
  path.toList.map fun c => if c = '\\' then '/' else c

/-- The URI of a directory. -/
def directoryUri (directory : String) : String :=
  let cs := ((withSlashes directory).reverse.dropWhile (· == '/')).reverse
  let scheme := if cs.head? == some '/' then "file://" else "file:///"
  scheme ++ String.ofList cs ++ "/"

end Path

/-- Where the URIs of what is read from a path start: the directory of the file, or if there is none
    the directory that the path names. -/
def Files.baseUri (files : Files) (path : String) : String :=
  match files path with
  | some file => Path.directoryUri (Path.parent file.location)
  | none => Path.directoryUri (Path.parent path)

/-! ## 3. Folders in memory -/

/-- Files by their names within a directory. -/
structure Folder where
  location : String
  files : KeyMap String

namespace Folder

def joined (names : List String) : String := String.intercalate "/" names

/-- Is there a directory of these names? -/
def isDirectory (folder : Folder) (names : List String) : Bool :=
  names.isEmpty || folder.files.keys.any fun key =>
    names.isPrefixOf (Path.names key) && names.length < (Path.names key).length

/-- Follows names from a directory; every name but the last has to be that of a directory. -/
def follow (folder : Folder) : (directory : List String) → List String → Option (List String)
  | directory, [] => some directory
  | directory, name :: rest =>
    if !folder.isDirectory directory then none
    else if name = "." then folder.follow directory rest
    else if name = ".." then
      if directory.isEmpty then none else folder.follow directory.dropLast rest
    else folder.follow (directory ++ [name]) rest

/-- The names that lead from the folder to what a path names. -/
def resolve? (folder : Folder) (path : String) : Option (List String) :=
  let isAbsolute := path.toList.head? == some '/'
  let endsInDirectory := path.toList.getLast? == some '/'
  if isAbsolute || path.isEmpty then none
  else
    match folder.follow [] (Path.names path) with
    | some names => if endsInDirectory && !folder.isDirectory names then none else some names
    | none => none

/-- The file that a path names. -/
def toFiles (folder : Folder) : Files := fun path => do
  let names ← folder.resolve? path
  let text ← folder.files.get? (joined names)
  return ⟨text, folder.location ++ "/" ++ joined names⟩

end Folder

end Faceted
