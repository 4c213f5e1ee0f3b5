/-!
Folders: what a path names in a folder of texts, and why a file cannot be read.
-/

namespace ShaderCheck

inductive ReadError where
  | notFound
  | permissionDenied
  /-- The path goes on behind a file. -/
  | notFolder
  | isFolder
  | nameTooLong
  /-- The bytes of the file are no text. -/
  | notText
  | other (reason : String)
  deriving DecidableEq

def ReadError.message : ReadError → String
  | .notFound => "No such file or directory (os error 2)"
  | .permissionDenied => "Permission denied (os error 13)"
  | .notFolder => "Not a directory (os error 20)"
  | .isFolder => "Is a directory (os error 21)"
  | .nameTooLong => "File name too long (os error 36)"
  | .notText => "stream did not contain valid UTF-8"
  | .other reason => reason

/-- A folder by the names and texts of its files. It holds no other folder. -/
structure Folder where
  files : List (String × String) := []

namespace Folder

def nameLimit : Nat := 255

def pathLimit : Nat := 4095

inductive Place where
  | folder (content : Folder)
  | file (text : String)

/-- Follows one part of a path. Nothing is known of the folders further up but that they are there. -/
def Place.follow : Place → String → Except ReadError Place
  | .file _, _ => .error .notFolder
  | .folder content, part =>
    if part = "" ∨ part = "." then .ok (.folder content)
    else if part = ".." then .ok (.folder {})
    else if nameLimit < part.utf8ByteSize then .error .nameTooLong
    else match content.files.lookup part with
      | some text => .ok (.file text)
      | none => .error .notFound

def origin (folder : Folder) (path : String) : Place :=
  .folder (if path.startsWith "/" then {} else folder)

/-- What a path leads to. The first part that cannot be followed tells why. -/
def find (folder : Folder) (path : String) : Except ReadError Place :=
  if path.isEmpty then .error .notFound
  else if pathLimit < path.utf8ByteSize then .error .nameTooLong
  else (path.splitOn "/").foldlM Place.follow (folder.origin path)

def read (folder : Folder) (path : String) : Except ReadError String := do
  match ← folder.find path with
  | .file text => .ok text
  | .folder _ => .error .isFolder

end Folder

end ShaderCheck
