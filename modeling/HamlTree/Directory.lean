import HamlTree.Text.Lines

/-!
# Directory -- files by path

A `Directory` is a list of files. `Directory.read` follows a path through it, part by part, as a
file system does:

* a part that is empty or a single point stays in the directory, and two points go back to the one
  around it;
* only a directory has parts below it, so a file in the middle of a path is an error, and so is a
  file with a slash behind it;
* a name may have at most 255 bytes, a path fewer than 4096.

What lies outside the directory, above it or at an absolute path, holds no files.
-/

set_option autoImplicit false

namespace HamlTree

/-- Why a file cannot be read. -/
inductive FileError where
  | notFound
  | isDirectory
  | notDirectory
  | nameTooLong
  /-- The bytes are no text. -/
  | notText
  | other (text : String)
deriving DecidableEq, Repr

/-- The wording of the error. -/
def FileError.message : FileError → String
  | notFound => "No such file or directory (os error 2)"
  | isDirectory => "Is a directory (os error 21)"
  | notDirectory => "Not a directory (os error 20)"
  | nameTooLong => "File name too long (os error 36)"
  | notText => "stream did not contain valid UTF-8"
  | other text => text

/-- The bytes of a file, or why there are none. -/
abbrev FileContent := Except FileError (List UInt8)

/-! ## Paths -/

namespace Path

/-- The directory itself, as a part of a path. -/
def isHere (part : List Char) : Bool :=
  part.isEmpty || part == ['.']

/-- The directory around, as a part of a path. -/
def isAbove (part : List Char) : Bool :=
  part == ['.', '.']

/-- The path starts at the root of the file system. -/
def isAbsolute (path : String) : Bool :=
  path.toList.head? == some '/'

/-- The parts of a path that name something or go back. -/
def parts (path : String) : List (List Char) :=
  (Text.cutAt '/' path.toList).filter fun part => !isHere part

/-- The path without the parts that stay where they are. -/
def plain (path : String) : String :=
  String.ofList ((if isAbsolute path then ['/'] else []) ++ Text.joinWith ['/'] (parts path))

/-- The path with an ending behind the name it leads to, if it leads to a name. -/
def withEnding? (path ending : String) : Option String :=
  match (parts path).getLast? with
  | some name => if isAbove name then none else some (plain path ++ ending)
  | none => none

end Path

/-! ## Files -/

/-- Files with the parts of their paths. -/
structure Directory where
  files : List (List (List Char) × List UInt8)
deriving DecidableEq, Repr

namespace Directory

/-- Where a path has led so far. -/
inductive Place where
  /-- A directory in the list, by the parts of its path. -/
  | inside (parts : List (List Char))
  /-- A directory that is not in the list. -/
  | outside
  | file (bytes : List UInt8)
deriving DecidableEq, Repr

/-- The directory that holds these files. -/
def ofFiles (files : List (String × List UInt8)) : Directory :=
  ⟨files.map fun file => (Path.parts file.1, file.2)⟩

/-- How many bytes a text takes. -/
def byteCount (text : List Char) : Nat :=
  (String.ofList text).utf8ByteSize

/-- What has this path, given by its parts. -/
def lookup (directory : Directory) (parts : List (List Char)) : Except FileError Place :=
  match directory.files.find? fun file => file.1 == parts with
  | some file => .ok (.file file.2)
  | none =>
    if directory.files.any fun file => parts.isPrefixOf file.1 then .ok (.inside parts)
    else .error .notFound

/-- Follow one part of a path. -/
def follow (directory : Directory) (place : Place) (part : List Char) : Except FileError Place :=
  match place with
  | .file _ => .error .notDirectory
  | .inside parts =>
    if Path.isHere part then .ok (.inside parts)
    else if Path.isAbove part then
      .ok (if parts.isEmpty then .outside else .inside parts.dropLast)
    else if byteCount part > 255 then .error .nameTooLong
    else directory.lookup (parts ++ [part])
  | .outside =>
    if Path.isHere part || Path.isAbove part then .ok .outside
    else if byteCount part > 255 then .error .nameTooLong
    else .error .notFound

/-- Follow the parts of a path. -/
def followAll (directory : Directory) : List (List Char) → Place → Except FileError Place
  | [], place => .ok place
  | part :: rest, place =>
    match directory.follow place part with
    | .ok next => followAll directory rest next
    | .error error => .error error

/-- Read the file with this path. -/
def read (directory : Directory) (path : String) : FileContent :=
  if path.isEmpty then .error .notFound
  else if byteCount path.toList ≥ 4096 then .error .nameTooLong
  else
    let start := if Path.isAbsolute path then .outside else .inside []
    match directory.followAll (Text.cutAt '/' path.toList) start with
    | .ok (.file bytes) => .ok bytes
    | .ok _ => .error .isDirectory
    | .error error => .error error

end Directory

end HamlTree
