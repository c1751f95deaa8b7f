import Storefront.Address.DatabaseFile
import Storefront.Number.Whole

/-!
# Addresses of databases

Two kinds of database are named by URLs. A server is named by its host, and who asks, with which
password and for which database stand in the URL with their escapes resolved; named values of the
query set options, and an option of another name does not matter (`Url.serverFault?`). One of them
is the path of a socket, which takes the place of the host. The other kind is a file
(`Storefront.Address.DatabaseFile`). The scheme tells the two apart (`Url.connectFault?`).
-/

namespace Storefront

open Text

/-! ### Options -/

/-- What is wrong with a text that should be a count: an optional plus sign, then digits. What
exceeds the range is noticed before what follows it. -/
def countFault? (cs : List Char) : Option CountFault :=
  let unsigned := match cs with
    | '+' :: c :: rest => c :: rest
    | cs => cs
  let digits := unsigned.takeWhile Char.isDigit
  if cs.isEmpty then some .empty
  else if Number.maxCount < (Number.digitsFrom? 0 digits).getD 0 then some .tooLarge
  else if digits.isEmpty || digits.length < unsigned.length then some .invalidDigit
  else none

/-- The levels of encryption of a connection. -/
def encryptionLevels : List (List Char) :=
  ["disabled".toList, "preferred".toList, "required".toList, "verify_ca".toList,
   "verify_identity".toList]

/-- What is wrong with an option of a server. -/
def serverOptionFault? (option : List Char × List Char) : Option AddressFault :=
  let (name, value) := option
  if name = "sslmode".toList || name = "ssl-mode".toList then
    if encryptionLevels.contains (foldCase value) then none else some (.encryption value)
  else if name = "statement-cache-capacity".toList then
    (countFault? value).map .cacheSize
  else none

/-! ### Servers -/

/-- What is wrong with a part of a URL that should be text once its escapes are resolved. -/
def partFault? (cs : List Char) : Option AddressFault :=
  match Percent.text? cs with
  | .error fault => some (.notText fault)
  | .ok _ => none

/-- **What is wrong with a server's address.** The user, the password and the name of the database
are looked at first, then the options in order. -/
def Url.serverFault? (url : Url) : Option AddressFault :=
  let user := (url.authority.map (·.user)).getD []
  let password := (url.authority.bind (·.password)).getD []
  let name := url.path.dropWhile (· = '/')
  ((partFault? user).or (partFault? password)).or
    ((partFault? name).or ((Percent.pairs (url.query.getD [])).findSome? serverOptionFault?))

/-- The path of the socket that takes the place of the host. The last option that names one
counts. -/
def Url.socket? (url : Url) : Option (List Char) :=
  (Percent.pairs (url.query.getD [])).reverse.lookup "socket".toList

/-- The greatest length of the path of a socket. -/
def maxSocketPath : Nat := 107

/-- **What is said of a socket** that nobody listens at. One whose name begins with a null character
is no matter of the file system. -/
def socketFault (path : List Char) : DatabaseFault :=
  if path.head? = some '\x00' then .unanswered
  else if path.contains '\x00' then .connection .nullInPath
  else if maxSocketPath < (path.flatMap String.utf8EncodeChar).length then .connection .longPath
  else if path.isEmpty then .connection .emptyPath
  else if (Place.ofPath path).isTaken then .unanswered
  else .connection .noSocket

/-! ### Databases -/

/-- **What is said when the database at an address is connected** and no server listens anywhere. -/
def Url.connectFault? (url : Url) : Option DatabaseFault :=
  if url.scheme = "mysql" || url.scheme = "mariadb" then
    match url.serverFault? with
    | some fault => some (.address fault)
    | none => some ((url.socket?.map socketFault).getD .unanswered)
  else if url.scheme = "sqlite" then
    match DatabaseFile.read url with
    | .error fault => some (.address fault)
    | .ok file => file.openFault?
  else some (.address (.noDriver url.scheme))

end Storefront
