/-
Files by their paths. A tree of files answers what stands at a path: nothing, a directory or the
bytes of a file. A template or a configuration is read as UTF-8 text.
-/
import TemplateEngines.Dict
import TemplateEngines.Text.Utf8

namespace TemplateEngines

/-- What stands at a path. -/
inductive FileState where
  | absent
  /-- A step of the path leads through a file. -/
  | throughFile
  | directory
  /-- A file that may not be read. -/
  | denied
  /-- The path or one of its steps is longer than the system allows. -/
  | nameTooLong
  /-- The path contains a character that no path may contain. -/
  | invalidName
  | file (bytes : List UInt8)
deriving DecidableEq, Inhabited, Repr

/-- What stands at every path. -/
abbrev Files := String → FileState

/-- Why a file cannot be read. -/
inductive ReadError where
  | notFound
  | notDirectory
  | isDirectory
  | denied
  | nameTooLong
  | invalidName
  | notText
deriving DecidableEq, Inhabited, Repr

def ReadError.message : ReadError → String
  | .notFound => "No such file or directory (os error 2)"
  | .notDirectory => "Not a directory (os error 20)"
  | .isDirectory => "Is a directory (os error 21)"
  | .denied => "Permission denied (os error 13)"
  | .nameTooLong => "File name too long (os error 36)"
  | .invalidName => "file name contained an unexpected NUL byte"
  | .notText => "stream did not contain valid UTF-8"

namespace Files

/-- There is a file or a directory at the path. -/
def present (files : Files) (path : String) : Bool :=
  match files path with
  | .directory | .denied | .file _ => true
  | _ => false

/-- The text of a file. -/
def readText (files : Files) (path : String) : Except ReadError String :=
  match files path with
  | .absent => .error .notFound
  | .throughFile => .error .notDirectory
  | .directory => .error .isDirectory
  | .denied => .error .denied
  | .nameTooLong => .error .nameTooLong
  | .invalidName => .error .invalidName
  | .file bytes =>
    match Text.Utf8.decode bytes with
    | .ok text => .ok text
    | .error _ => .error .notText

end Files

/-! ## Trees -/

/-- Files and directories by their paths from a common directory; a directory has no bytes. What
stands inside a directory makes it a directory, too. -/
abbrev FileTree := Dict (Option (List UInt8))

namespace FileTree

/-- The number of bytes that a path stays below. -/
def pathLimit : Nat := 4096

/-- The greatest number of bytes of a step. -/
def stepLimit : Nat := 255

/-- The steps of a path, without those that stay where they are. -/
def steps (path : String) : List String :=
  (path.splitOn "/").filter fun step => !(step.isEmpty || step == ".")

/-- The tree of some files and directories. -/
def ofList (entries : List (String × Option (List UInt8))) : FileTree :=
  Dict.ofList (entries.map fun (path, content) => (String.intercalate "/" (steps path), content))

/-- Follows the steps of a path from a directory, none being one outside of the common directory. -/
def walk (tree : FileTree) (dir : Option (List String)) : List String → FileState
  | [] => .directory
  | "" :: rest | "." :: rest => walk tree dir rest
  | ".." :: rest => walk tree (dir.bind fun d => if d.isEmpty then none else some d.dropLast) rest
  | step :: rest =>
    if step.utf8ByteSize > stepLimit then .nameTooLong
    else
      match dir with
      | none => .absent
      | some dir =>
        let path := String.intercalate "/" (dir ++ [step])
        match tree.get? path with
        | some (some bytes) => if rest.isEmpty then .file bytes else .throughFile
        | some none => walk tree (some (dir ++ [step])) rest
        | none =>
          if tree.any fun row => row.1.startsWith (path ++ "/") then
            walk tree (some (dir ++ [step])) rest
          else .absent

/-- The file that is empty on every system. -/
def emptyDevice : String := "/dev/null"

/-- What stands at a path. Outside of the common directory there are the empty device and the
directories around the common one, whose names are not known. -/
def toFiles (tree : FileTree) : Files := fun path =>
  if path.contains '\x00' then .invalidName
  else if path.isEmpty then .absent
  else if path.utf8ByteSize ≥ pathLimit then .nameTooLong
  else if path == emptyDevice then .file []
  else walk tree (if path.startsWith "/" then none else some []) (path.splitOn "/")

end FileTree

end TemplateEngines
