import RuleHints.Failure
import RuleHints.Text.Order
import RuleHints.Text.Utf8

/-!
# Files

A tree of files as a value. A path is the list of the names from the root of the tree on. Text names
a path in a tree by following its names one by one; two dots go back to the directory above. The
files are kept in the order of a walk that visits the entries of each directory by name and
goes into a directory when it meets it, which is the lexicographic order of their paths.
-/

namespace RuleHints

abbrev Path := List Text

namespace Path

def ofText (t : Text) : Path :=
  (t.splitOn '/').filter fun name => !name.isEmpty && name != "."

/-- The name before its last dot and the extension after it. A dot at the start does not count, and
two dots are no name of a file. -/
def splitExtension (name : Text) : Text × Option Text :=
  let extension := (name.reverse.takeWhile (· != '.')).reverse
  let stem := name.take (name.length - extension.length - 1)
  if extension.length = name.length || stem.isEmpty || name = ".." then (name, none)
  else (stem, some extension)

def extension? (path : Path) : Option Text :=
  path.getLast?.bind fun name => (splitExtension name).2

def stem (path : Path) : Text := (path.getLast?.map fun name => (splitExtension name).1).getD []

/-- The path with another extension of its last name. What is left without the old one has to be the
name of a file, so `..md` becomes two dots. -/
def withExtension (extension : Text) (path : Path) : Path :=
  let stem := stem path
  let name : Text := if stem = "." then ".." else stem ++ "." ++ extension
  path.dropLast ++ [name]

def isBefore : Path → Path → Bool := precedes Text.isBefore

def toText (path : Path) : Text := List.intercalate "/" path

end Path

structure File where
  path : Path
  bytes : List UInt8
  deriving DecidableEq, Repr

namespace File

def text? (file : File) : Option Text := Text.utf8Decode? file.bytes

end File

/-- Files in the order of a walk, and directories that were made on their own. -/
structure FileTree where
  files : List File := []
  directories : List Path := []

namespace FileTree

def insertFile (file : File) : List File → List File
  | [] => [file]
  | other :: rest =>
    if Path.isBefore file.path other.path then file :: other :: rest
    else if file.path = other.path then file :: rest
    else other :: insertFile file rest

def isDirectory (tree : FileTree) (path : Path) : Bool :=
  path.isEmpty || tree.directories.any path.isPrefixOf ||
    tree.files.any fun file => path.isPrefixOf file.path && path != file.path

/-! ### Names -/

/-- Follows names from a path on. Whatever comes before another name has to be a directory. Nothing
is found above the root. -/
def walk? (tree : FileTree) (path : Path) : List Text → Option Path
  | [] => some path
  | name :: rest =>
    if !tree.isDirectory path then none
    else if name.isEmpty || name = "." then walk? tree path rest
    else if name = ".." then (if path.isEmpty then none else walk? tree path.dropLast rest)
    else walk? tree (path ++ [name]) rest

/-- The path that text names; there need not be anything at its end. -/
def find? (tree : FileTree) (t : Text) : Option Path :=
  if t.isEmpty || Text.startsWith "/" t then none else tree.walk? [] (t.splitOn '/')

def directory? (tree : FileTree) (t : Text) : Option Path := (tree.find? t).filter tree.isDirectory

def read (tree : FileTree) (t : Text) : Except Failure Text :=
  match (tree.find? t).bind fun path => (tree.files.find? (·.path = path)).bind File.text? with
  | some text => .ok text
  | none => .error .file

/-! ### Writing -/

def makeDirectory (tree : FileTree) (path : Path) : List Text → FileTree × Path
  | [] => (tree, path)
  | name :: rest =>
    if name = ".." then makeDirectory tree path.dropLast rest
    else
      let path := path ++ [name]
      makeDirectory { tree with directories := path :: tree.directories } path rest

def write (tree : FileTree) (names : Path) (bytes : List UInt8) : FileTree :=
  let (tree, path) := tree.makeDirectory [] names.dropLast
  { tree with files := insertFile ⟨path ++ names.getLast?.toList, bytes⟩ tree.files }

/-! ### Walks -/

def below (tree : FileTree) (directory : Path) : List File :=
  (tree.files.filter fun file => directory.isPrefixOf file.path && directory != file.path).map
    fun file => { file with path := file.path.drop directory.length }

end FileTree

end RuleHints
