import Storefront.Address.FileName
import Storefront.Address.Place
import Storefront.Address.Url

/-!
# Files that addresses name

The address of a database in a file names the file by all that follows the scheme, with the options
behind the first question mark (`DatabaseFile.read`). An option of another name is a fault.

A database opens where its file is, or where one may be made (`Opening.fault?`). Two kinds need
none: those in memory, and those without a path, which vanish when they are closed.
-/

namespace Storefront

open Text

/-- What an address says of a database in a file. -/
structure DatabaseFile where
  name : List Char
  readOnly : Bool
  /-- Whether a file that is missing is made. -/
  creates : Bool
  inMemory : Bool
  /-- Whether nobody else changes the file. -/
  immutable : Bool
  /-- The way to the file system, if it is not the usual one. -/
  fileSystem : Option (List Char)
deriving DecidableEq

namespace Opening

/-- The ways to the file system that there are. -/
def fileSystems : List String :=
  ["unix", "unix-none", "unix-dotfile", "unix-excl", "memdb"]

/-- The longest path to a database that is a file in memory. -/
def maxMemoryPath : Nat := 1016

/-- What is said of the file at a place. A directory is no file, which shows when it is read. -/
def placeFault? (access : Access) : Place → Option DatabaseFault
  | .nullDevice => none
  | .root => some .cannotOpen
  | .directory => if access = .read then some .unreadable else some .cannotOpen
  | .missing => if access = .create then none else some .cannotOpen
  | .nowhere => some .cannotOpen

/-- Whether the file whose permissions are taken over is missing. No path leads to none. -/
def patternIsMissing (opening : Opening) : Bool :=
  opening.pattern.any fun path =>
    path.isEmpty || !(Place.ofPath (decodeUtf8Lossy path)).isTaken

/-- **What is said of an opening.** -/
def fault? (opening : Opening) : Option DatabaseFault :=
  let way := String.ofList (decodeUtf8Lossy opening.fileSystem)
  let path := decodeUtf8Lossy opening.path
  if !fileSystems.contains way then some (.noFileSystem way)
  else if opening.inMemory || path.isEmpty || path = ":memory:".toList then none
  else if way = "memdb" then
    if opening.path.length ≤ maxMemoryPath then none else some .cannotOpen
  else
    let place := Place.ofPath path
    if place ≠ .root && opening.patternIsMissing then some .noPattern
    else placeFault? opening.access place

end Opening

namespace DatabaseFile

/-! ### Addresses of files -/

/-- The file with an option set, or what is wrong with the option. -/
def withOption (file : DatabaseFile) (option : List Char × List Char) :
    Except AddressFault DatabaseFile :=
  let (name, value) := option
  let unknown : AddressFault := .parameterValue (String.ofList name) value
  match String.ofList name, String.ofList value with
  | "mode", "ro" => .ok { file with readOnly := true }
  | "mode", "rw" => .ok file
  | "mode", "rwc" => .ok { file with creates := true }
  | "mode", "memory" => .ok { file with inMemory := true }
  | "mode", _ => .error unknown
  | "cache", value => if ["private", "shared"].contains value then .ok file else .error unknown
  | "immutable", value =>
    if ["true", "1"].contains value then .ok { file with immutable := true }
    else if ["false", "0"].contains value then .ok { file with immutable := false }
    else .error unknown
  | "vfs", _ => .ok { file with fileSystem := some value }
  | _, _ => .error (.parameter name)

/-- The characters after a beginning, however often it is repeated. -/
def afterRepeated (start cs : List Char) : List Char :=
  match start.isPrefixOf? cs with
  | some rest => if rest.length < cs.length then afterRepeated start rest else cs
  | none => cs
termination_by cs.length

/-- **The file that a URL names.** -/
def read (url : Url) : Except AddressFault DatabaseFile := do
  let spelt := afterRepeated "sqlite:".toList (afterRepeated "sqlite://".toList url.text)
  let name := spelt.takeWhile (· ≠ '?')
  let options := Percent.pairs (spelt.drop (name.length + 1))
  let file (name : List Char) (inMemory : Bool) : DatabaseFile :=
    ⟨name, false, false, inMemory, false, none⟩
  if name = ":memory:".toList then options.foldlM withOption (file name true)
  else
    match Percent.text? name with
    | .error fault => throw (.notText fault)
    | .ok name => options.foldlM withOption (file name false)

/-! ### Opening files -/

/-- How much may be done with a file. -/
def access (file : DatabaseFile) : Access :=
  if file.readOnly then .read else if file.creates then .create else .write

/-- The opening of a file by its path, on the usual way. -/
def opening (file : DatabaseFile) : Opening :=
  ⟨[], file.access, file.inMemory, "unix".toList.flatMap String.utf8EncodeChar, none⟩

/-- The bytes of a text before a null character. -/
def bytesBeforeNull (cs : List Char) : List UInt8 :=
  (cs.takeWhile (· ≠ '\x00')).flatMap String.utf8EncodeChar

/-- **How a file is opened.** What the address says of the way or of changes is said in a URI made
of escapes, in which a plus sign stands for a blank; otherwise the name is taken as it is. -/
def opening? (file : DatabaseFile) : Except DatabaseFault Opening :=
  if file.immutable || file.fileSystem.isSome then
    let way := file.fileSystem.map fun way =>
      bytesBeforeNull (way.map fun c => if c = ' ' then '+' else c)
    .ok { file.opening with
      path := bytesBeforeNull file.name
      fileSystem := way.getD file.opening.fileSystem }
  else file.opening.ofName file.name

/-- **What is said of a file** that is opened. -/
def openFault? (file : DatabaseFile) : Option DatabaseFault :=
  match file.opening? with
  | .error fault => some fault
  | .ok opening => opening.fault?

end DatabaseFile

end Storefront
