import CoverageQuery.Files.Basic
import CoverageQuery.Text.Scan

/-!
# Trees of files

Directories in which files are found, read and written by their paths. The names in a path are
followed one by one, so that a dot or two after something that is not there lead nowhere.
-/

namespace CoverageQuery

inductive FileTree where
  | file (bytes : List UInt8)
  | directory (entries : List (String × FileTree))

namespace FileTree

def ofText (text : String) : FileTree := .file text.toUTF8.toList

def entry? (name : String) : FileTree → Option FileTree
  | file _ => none
  | directory entries => entries.lookup name

/-- What stands at a place, which is given by the names that lead to it. -/
def at? (tree : FileTree) (place : List String) : Option FileTree :=
  place.foldlM (fun t name => t.entry? name) tree

def IsDirectory (tree : FileTree) (place : List String) : Prop :=
  match tree.at? place with
  | some (.directory _) => True
  | _ => False

instance (tree : FileTree) (place : List String) : Decidable (tree.IsDirectory place) := by
  unfold IsDirectory
  split <;> infer_instance

/-- The names in a path. -/
def names (path : String) : List String :=
  (Text.fields '/' path.toList).map String.ofList

/-- The most bytes in a name. -/
def longestName : Nat := 255

/-- The most bytes in a path. -/
def longestPath : Nat := 4095

/-- Where some names lead from a place. -/
def resolve (tree : FileTree) (place : List String) : List String → Except FileFault (List String)
  | [] => .ok place
  | name :: rest =>
    if ¬ tree.IsDirectory place then .error .notDirectory
    else if name = "" ∨ name = "." then tree.resolve place rest
    else if name = ".." then tree.resolve place.dropLast rest
    else if longestName < name.utf8ByteSize then .error .nameTooLong
    else if (tree.at? (place ++ [name])).isNone then .error .missing
    else tree.resolve (place ++ [name]) rest

/-- The bytes of the file at a path. -/
def read (tree : FileTree) (path : String) : Except FileFault (List UInt8) := do
  if longestPath < path.utf8ByteSize then throw .nameTooLong
  let place ← tree.resolve [] (names path)
  match tree.at? place with
  | some (file bytes) => pure bytes
  | _ => throw .directory

def readText (tree : FileTree) (path : String) : FileContent :=
  tree.read path >>= FileContent.ofBytes

/-- The tree with a file at a place, in the stead of what was there. -/
def put (bytes : List UInt8) : List String → FileTree → FileTree
  | [], _ => file bytes
  | name :: place, tree =>
    match tree with
    | file _ => tree
    | directory entries =>
      let inner := put bytes place ((tree.entry? name).getD (directory []))
      directory (entries.filter (·.1 ≠ name) ++ [(name, inner)])

/-- The directory that a path leads to and the name at its end, without the slashes after it. -/
def splitLast (path : String) : List String × String :=
  match (names path).reverse.dropWhile (· = "") with
  | [] => ([], "")
  | name :: rest => (rest.reverse, name)

/-- The tree after a file has been written. Its directory must be there. -/
def write (tree : FileTree) (path : String) (bytes : List UInt8) : Except FileFault FileTree := do
  if longestPath < path.utf8ByteSize then throw .nameTooLong
  let (above, name) := splitLast path
  let place ← tree.resolve [] above
  if ¬ tree.IsDirectory place then throw .notDirectory
  if path.endsWith "/" ∨ name = "." ∨ name = ".." then throw .directory
  if longestName < name.utf8ByteSize then throw .nameTooLong
  if tree.IsDirectory (place ++ [name]) then throw .directory
  pure (put bytes (place ++ [name]) tree)

end FileTree

end CoverageQuery
