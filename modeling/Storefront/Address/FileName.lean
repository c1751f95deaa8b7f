import Storefront.Address.Percent
import Storefront.Fault
import Storefront.Text.Words

/-!
# Names of database files

The name of a database file is a path, or a URI if it begins with `file:`. In a URI an authority may
stand before the path, though only that of this machine; escapes stand for bytes; and behind a
question mark options say how the file is opened. A number sign ends it all, and a null byte the
part in which it stands.

How the file is opened without options is given. They may not ask for more than that, except of a
database that is kept in memory (`Opening.withMode`).

* `Opening.ofName` – how the file of a name is opened, or what is wrong with the name.
-/

namespace Storefront

open Text

/-- What may be done with a file, each more than the one before. -/
inductive Access where
  | read
  | write
  | create
deriving DecidableEq

/-- How much an access allows. -/
def Access.rank : Access → Nat
  | .read => 1
  | .write => 2
  | .create => 3

/-- The access that a mode of opening stands for. -/
def Access.ofMode? : String → Option Access
  | "ro" => some .read
  | "rw" => some .write
  | "rwc" => some .create
  | _ => none

/-- How a database is opened. -/
structure Opening where
  path : List UInt8
  access : Access
  /-- Whether the database is kept in memory and not in the file; no access matters then. -/
  inMemory : Bool
  /-- The way to the file system. -/
  fileSystem : List UInt8
  /-- The file whose permissions the file takes over. -/
  pattern : Option (List UInt8)
deriving DecidableEq

namespace Opening

/-! ### Options -/

/-- **The opening in a mode.** -/
def withMode (opening : Opening) (mode : String) : Except DatabaseFault Opening :=
  if mode = "memory" then .ok { opening with inMemory := true }
  else
    match Access.ofMode? mode with
    | none => .error (.noMode "access" mode)
    | some access =>
      if !opening.inMemory && opening.access.rank < access.rank then .error (.deniedMode mode)
      else .ok { opening with access, inMemory := false }

/-- The opening with an option of a URI. Of two patterns the first counts, and of two other options
the last; an option of another name does not matter. -/
def withOption (opening : Opening) (option : List UInt8 × List UInt8) :
    Except DatabaseFault Opening :=
  let value := String.ofList (decodeUtf8Lossy option.2)
  match String.ofList (decodeUtf8Lossy option.1) with
  | "vfs" => .ok { opening with fileSystem := option.2 }
  | "modeof" => .ok { opening with pattern := opening.pattern.or (some option.2) }
  | "mode" => opening.withMode value
  | "cache" =>
    if ["shared", "private"].contains value then .ok opening else .error (.noMode "cache" value)
  | _ => .ok opening

/-! ### URIs -/

/-- The bytes of a part of a URI, up to a null byte. -/
def uriBytes (cs : List Char) : List UInt8 :=
  (Percent.decode cs).takeWhile (· ≠ 0)

/-- The options of a URI, without those that have no name. -/
def uriOptions (cs : List Char) : List (List UInt8 × List UInt8) :=
  let named := (fieldsBy '&' cs).map fun field =>
    let name := field.takeWhile (· ≠ '=')
    (uriBytes name, uriBytes (field.drop (name.length + 1)))
  named.filter fun option => !option.1.isEmpty

/-- What follows the authority of a URI, which is none or that of this machine. -/
def afterAuthority : List Char → Except DatabaseFault (List Char)
  | '/' :: '/' :: rest =>
    let authority := rest.takeWhile (· ≠ '/')
    if authority.isEmpty || authority = "localhost".toList then .ok (rest.drop authority.length)
    else .error (.foreignAuthority (String.ofList authority))
  | cs => .ok cs

/-- The opening of the file of a URI, without its scheme. -/
def ofUri (opening : Opening) (cs : List Char) : Except DatabaseFault Opening := do
  let spelt := (← afterAuthority cs).takeWhile (· ≠ '#')
  let path := spelt.takeWhile (· ≠ '?')
  let opening := { opening with path := uriBytes path }
  (uriOptions (spelt.drop (path.length + 1))).foldlM withOption opening

/-- **The opening of the file of a name.** No name holds a null character. -/
def ofName (opening : Opening) (name : List Char) : Except DatabaseFault Opening :=
  if name.contains '\x00' then .error (.connection .nullInName)
  else
    match "file:".toList.isPrefixOf? name with
    | some rest => opening.ofUri rest
    | none => .ok { opening with path := name.flatMap String.utf8EncodeChar }

end Opening

end Storefront
