import Storefront.Text.Words

/-!
# Where paths lead

Addresses of databases may hold paths of files and sockets. Of what they lead to only that counts
which every machine has: the root, the directory in which the program works, a device that holds
nothing, and a directory for what is soon forgotten. No database has been left at any of them
(`Place.ofPath`).
-/

namespace Storefront

open Text

/-- Where a path leads. -/
inductive Place where
  /-- To the device that holds nothing and takes everything. -/
  | nullDevice
  /-- To the root, which is never taken for a file. -/
  | root
  /-- To another directory. -/
  | directory
  /-- To no file, in a directory that is there. -/
  | missing
  /-- To no file in no directory. -/
  | nowhere
deriving DecidableEq

/-- The names of a path that are left, last first: a point stands for nothing, and two take the
name before them away. -/
def pathNames (path : List Char) : List (List Char) :=
  (fieldsBy '/' path).foldl
    (fun before name =>
      if name = [] || name = ['.'] then before
      else if name = ['.', '.'] then before.drop 1
      else name :: before)
    []

/-- The directories of the root in which there is something: devices, and what is soon forgotten. -/
def rootDirectories : List (List Char) :=
  ["dev".toList, "tmp".toList]

/-- The place of a path. One without a slash in front begins where the program works. -/
def Place.ofPath (path : List Char) : Place :=
  match path.head? == some '/', pathNames path with
  | true, [] => .root
  | true, [name] => if rootDirectories.contains name then .directory else .missing
  | true, [name, parent] =>
    if parent = "tmp".toList then .missing
    else if parent = "dev".toList && name = "null".toList then .nullDevice
    else .nowhere
  | false, [] => .directory
  | false, [_] => .missing
  | _, _ => .nowhere

/-- Whether something is at a place. -/
def Place.isTaken : Place → Bool
  | .nullDevice | .root | .directory => true
  | .missing | .nowhere => false

end Storefront
