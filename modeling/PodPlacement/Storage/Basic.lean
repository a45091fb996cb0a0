/-! # Storage — reading text files by path

    A path is walked name by name from a folder, with its parents at hand.
    What it names must be a file that holds text.  Faults come in the order of
    the walk: a path that is no path at all first, then the first name that
    leads nowhere. -/

namespace PodPlacement

/-- Why a file cannot be read. -/
inductive ReadFault where
  | notFound
  | isDirectory
  | notDirectory
  | nameTooLong
  | zeroByte
  | notText
  deriving DecidableEq

namespace ReadFault

/-- The number that the system gives a fault, and its name and wording there. -/
def systemCode? : ReadFault → Option (Nat × String × String)
  | .notFound => some (2, "NotFound", "No such file or directory")
  | .isDirectory => some (21, "IsADirectory", "Is a directory")
  | .notDirectory => some (20, "NotADirectory", "Not a directory")
  | .nameTooLong => some (36, "InvalidFilename", "File name too long")
  | .zeroByte | .notText => none

/-- The wording of a fault. -/
def message (fault : ReadFault) : String :=
  match fault.systemCode? with
  | some (code, _, wording) => wording ++ " (os error " ++ toString code ++ ")"
  | none =>
    if fault = .zeroByte then "file name contained an unexpected NUL byte"
    else "stream did not contain valid UTF-8"

/-- A fault with all its parts. -/
def description (fault : ReadFault) : String :=
  match fault.systemCode? with
  | some (code, name, wording) =>
    "Os \x7b code: " ++ toString code ++ ", kind: " ++ name ++ ", message: \"" ++ wording
      ++ "\" \x7d"
  | none =>
    "Error \x7b kind: " ++ (if fault = .zeroByte then "InvalidInput" else "InvalidData")
      ++ ", message: \"" ++ fault.message ++ "\" \x7d"

end ReadFault

/-- A file, or a folder of named nodes. -/
inductive StorageNode where
  | file (content : ByteArray)
  | folder (entries : List (String × StorageNode))

/-- A folder to walk from: the folder itself, then its parents up to the root. -/
structure Storage where
  here : StorageNode
  parents : List StorageNode

namespace Storage

/-- The longest name in bytes. -/
def maxName : Nat := 255

/-- The length in bytes from which on a path is too long. -/
def pathBound : Nat := 4096

/-- The folder above; above the root is the root. -/
def up (storage : Storage) : Storage :=
  match storage.parents with
  | [] => storage
  | parent :: parents => ⟨parent, parents⟩

/-- The root. -/
def root (storage : Storage) : Storage :=
  ⟨storage.parents.getLast?.getD storage.here, []⟩

/-- Goes to what a name leads to. -/
def enter (storage : Storage) (name : String) : Except ReadFault Storage :=
  match storage.here with
  | .file _ => .error .notDirectory
  | .folder entries =>
    if name = "" ∨ name = "." then .ok storage
    else if name = ".." then .ok storage.up
    else if maxName < name.utf8ByteSize then .error .nameTooLong
    else match entries.find? (·.1 = name) with
      | some (_, node) => .ok ⟨node, storage.here :: storage.parents⟩
      | none => .error .notFound

/-- Goes where a path leads. -/
def walk (storage : Storage) (path : String) : Except ReadFault Storage :=
  if path.toList.contains '\x00' then .error .zeroByte
  else if path = "" then .error .notFound
  else if pathBound ≤ path.utf8ByteSize then .error .nameTooLong
  else
    let names := (path.toList.splitOn '/').map String.ofList
    names.foldlM enter (if path.toList.head? = some '/' then storage.root else storage)

/-- Reads the text file that a path leads to. -/
def readText (storage : Storage) (path : String) : Except ReadFault String := do
  match (← storage.walk path).here with
  | .folder _ => throw .isDirectory
  | .file content =>
    match String.fromUTF8? content with
    | some text => return text
    | none => throw .notText

end Storage

end PodPlacement
