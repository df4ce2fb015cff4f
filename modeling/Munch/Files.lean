import Munch.Text

/-! # Files

What a run can learn of a file: its text, or why there is none. A run sees its files only through
`Files`, which answers a path; `Files.ofDirectory` is the answer of a directory that holds files
alone. It follows a path piece by piece. -/
set_option autoImplicit false

namespace Munch

inductive FileFault where
  | notFound
  | notDirectory
  | isDirectory
  | nameTooLong
  | notText
  | other (message : Text)
deriving DecidableEq, Repr

def FileFault.message : FileFault → Text
  | .notFound => "No such file or directory (os error 2)".toList
  | .notDirectory => "Not a directory (os error 20)".toList
  | .isDirectory => "Is a directory (os error 21)".toList
  | .nameTooLong => "File name too long (os error 36)".toList
  | .notText => "stream did not contain valid UTF-8".toList
  | .other message => message

/-- What the files of a run hold: for a path its bytes, or a fault. -/
abbrev Files := Text → Except FileFault ByteArray

def Files.text (files : Files) (file : Text) : Except FileFault Text :=
  match files file with
  | .error fault => .error fault
  | .ok bytes =>
    match String.fromUTF8? bytes with
    | some content => .ok content.toList
    | none => .error .notText

abbrev Entries := List (Text × ByteArray)

inductive Place where
  | inside
  | above
  | file (bytes : ByteArray)

def longestName : Nat := 255

def longestPath : Nat := 4095

/-- Follows one piece of a path. Nothing follows a file, not even an empty piece. An empty piece and
a dot stay, two dots go up, and of all names only those of the directory's files are known. -/
def Place.follow (entries : Entries) (place : Place) (piece : Text) : Except FileFault Place :=
  match place with
  | .file _ => .error .notDirectory
  | .above =>
    if piece = [] ∨ piece = ['.'] ∨ piece = ['.', '.'] then .ok .above
    else if longestName < piece.utf8Length then .error .nameTooLong
    else .error .notFound
  | .inside =>
    if piece = [] ∨ piece = ['.'] then .ok .inside
    else if piece = ['.', '.'] then .ok .above
    else if longestName < piece.utf8Length then .error .nameTooLong
    else
      match entries.lookup piece with
      | some bytes => .ok (.file bytes)
      | none => .error .notFound

def Place.followAll (entries : Entries) : Place → List Text → Except FileFault Place
  | place, [] => .ok place
  | place, piece :: pieces =>
    match place.follow entries piece with
    | .ok next => next.followAll entries pieces
    | .error fault => .error fault

def Place.origin (path : Text) : Place :=
  if path.head? = some '/' then .above else .inside

def Files.ofDirectory (entries : Entries) : Files := fun path =>
  if path = [] then .error .notFound
  else if longestPath < path.utf8Length then .error .nameTooLong
  else
    match (Place.origin path).followAll entries (path.split '/') with
    | .ok (.file bytes) => .ok bytes
    | .ok _ => .error .isDirectory
    | .error fault => .error fault

end Munch
