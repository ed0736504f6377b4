/-!
# Files

Paths, what reading a file gives, and why a file cannot be read or written.
-/

namespace CoverageQuery

/-- The path of something in a directory. A slash is put after the directory unless it ends in one
or is empty. -/
def inDirectory (directory name : String) : String :=
  match directory.toList.getLast? with
  | none | some '/' => directory ++ name
  | some _ => directory ++ "/" ++ name

/-- Why a file cannot be read or written. -/
inductive FileFault where
  | missing
  | directory
  | notDirectory
  | denied
  | nameTooLong
  | notText
  | other (reason : String)
deriving DecidableEq, Repr

def FileFault.message : FileFault → String
  | missing => "No such file or directory (os error 2)"
  | directory => "Is a directory (os error 21)"
  | notDirectory => "Not a directory (os error 20)"
  | denied => "Permission denied (os error 13)"
  | nameTooLong => "File name too long (os error 36)"
  | notText => "stream did not contain valid UTF-8"
  | other reason => reason

/-- The text of a file, if it can be read. -/
abbrev FileContent := Except FileFault String

/-- The text that the bytes of a file are. -/
def FileContent.ofBytes (bytes : List UInt8) : FileContent :=
  match String.fromUTF8? ⟨bytes.toArray⟩ with
  | some text => .ok text
  | none => .error .notText

end CoverageQuery
