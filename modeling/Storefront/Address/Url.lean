import Storefront.Address.Host

/-!
# URLs

A URL is a scheme and a colon, perhaps an authority – who asks which host for which of its numbered
services – a path, perhaps a query and perhaps a fragment. Blanks and control characters at the ends
do not count, and neither do tabulators and line breaks anywhere.

The scheme decides how the rest is read. The web's schemes always have an authority, after any
number of slashes, and a backslash is a slash to them; files have nothing but a host in its place;
to any other scheme two slashes introduce an authority, and a path without a slash in front is taken
as it is.

The parts are kept as they are spelt, escapes and all, except that a path loses the segments that
`.` and `..` take away.

* `Url.read` – the URL that a text spells, or what is wrong with it;
* `Url.text` – a URL as text.
-/

namespace Storefront

/-- Who asks which host for which service. An empty user name counts as none. -/
structure Authority where
  user : List Char
  password : Option (List Char)
  host : List Char
  service : Option Nat
deriving DecidableEq

/-- A URL, its parts as they are spelt. The scheme is in lower case. -/
structure Url where
  scheme : String
  authority : Option Authority
  path : List Char
  query : Option (List Char)
  fragment : Option (List Char)
deriving DecidableEq

namespace Url

/-! ### Schemes -/

/-- How the rest of a URL is read. -/
inductive Kind where
  | web
  | file
  | other
deriving DecidableEq

/-- The kind of a scheme. -/
def Kind.ofScheme (scheme : String) : Kind :=
  if scheme = "file" then .file
  else if ["http", "https", "ws", "wss", "ftp"].contains scheme then .web
  else .other

/-- Whether a character divides a path. -/
def Kind.isSlash (kind : Kind) (c : Char) : Bool :=
  c = '/' || (c = '\\' && kind ≠ .other)

/-- Whether a character ends an authority. -/
def Kind.endsAuthority (kind : Kind) (c : Char) : Bool :=
  kind.isSlash c || c = '?' || c = '#'

/-- What may stand in the name of a scheme after its first letter. -/
def isSchemeChar (c : Char) : Bool :=
  c.isAlphanum || c = '+' || c = '-' || c = '.'

/-- The characters that count: no tabulators and line breaks inside, neither blanks nor control
characters at the ends. -/
def significant (text : String) : List Char :=
  let isEdge (c : Char) : Bool := c.toNat ≤ 0x20
  let inner := ((text.toList.dropWhile isEdge).reverse.dropWhile isEdge).reverse
  inner.filter fun c => c ≠ '\t' && c ≠ '\n' && c ≠ '\r'

/-- The scheme, in lower case, and what follows its colon: letters, digits and a few signs, the
first a letter. -/
def splitScheme? (cs : List Char) : Option (String × List Char) :=
  let scheme := cs.takeWhile isSchemeChar
  match scheme, cs.drop scheme.length with
  | first :: _, ':' :: rest =>
    if first.isAlpha then some (String.ofList (Text.foldCase scheme), rest) else none
  | _, _ => none

/-! ### Paths -/

/-- The characters with the escapes of a point resolved, to tell the segments `.` and `..`. -/
def resolvePoints : List Char → List Char
  | [] => []
  | '%' :: '2' :: c :: rest =>
    if c = 'e' || c = 'E' then '.' :: resolvePoints rest
    else '%' :: resolvePoints ('2' :: c :: rest)
  | c :: rest => c :: resolvePoints rest

/-- The segments that are left: `.` stands for nothing and `..` takes the one before it away, and
at the end either leaves an empty one. The segments before are given last first. -/
def resolveSegments (before : List (List Char)) : List (List Char) → List (List Char)
  | [] => before.reverse
  | segment :: rest =>
    let spelt := resolvePoints segment
    let atEnd : List (List Char) := if rest.isEmpty then [[]] else []
    if spelt = ['.', '.'] then resolveSegments (atEnd ++ before.drop 1) rest
    else if spelt = ['.'] then resolveSegments (atEnd ++ before) rest
    else resolveSegments (segment :: before) rest

/-- **A path after its first slash**, with a slash before each segment that is left. -/
def rootedPath (kind : Kind) (cs : List Char) : List Char :=
  let segments := Text.fieldsBy '/' (cs.map fun c => if kind.isSlash c then '/' else c)
  (resolveSegments [] segments).flatMap ('/' :: ·)

/-- The path, the query and the fragment of characters, and how the path is to be read. -/
def withTail (scheme : String) (authority : Option Authority) (path : List Char → List Char)
    (cs : List Char) : Url :=
  let spelt := cs.takeWhile fun c => c ≠ '?' && c ≠ '#'
  let tail := cs.drop spelt.length
  let query := match tail with
    | '?' :: rest => some (rest.takeWhile (· ≠ '#'))
    | _ => none
  let fragment := (tail.dropWhile (· ≠ '#')).drop 1
  let marked := tail.any (· = '#')
  ⟨scheme, authority, path spelt, query, if marked then some fragment else none⟩

/-- The path that follows an authority: none, or one that begins with a slash whether it is spelt
or not. The web's schemes always have one. -/
def pathAfterAuthority (kind : Kind) (cs : List Char) : List Char :=
  match cs with
  | [] => if kind = .other then [] else ['/']
  | c :: rest => if kind.isSlash c then rootedPath kind rest else rootedPath kind (c :: rest)

/-! ### Authorities -/

/-- What stands before and after the last `@`. -/
def splitAtLast? (cs : List Char) : Option (List Char × List Char) :=
  let after := (cs.reverse.takeWhile (· ≠ '@')).reverse
  if after.length = cs.length then none
  else some (cs.take (cs.length - after.length - 1), after)

/-- The host at the front: up to a colon outside brackets. -/
def hostSpelling (inBrackets : Bool) : List Char → List Char
  | [] => []
  | c :: rest =>
    if c = ':' && !inBrackets then []
    else c :: hostSpelling (if c = '[' then true else if c = ']' then false else inBrackets) rest

/-- The greatest number of a service. -/
def maxService : Nat := 65535

/-- The number of the service after a host, and what follows. There may be a colon without a number,
and a backslash may follow where it is no slash. -/
def service? (cs : List Char) : Except UrlFault (Option Nat × List Char) :=
  match cs with
  | ':' :: rest =>
    let digits := rest.takeWhile Char.isDigit
    let rest := rest.drop digits.length
    let ends := match rest with
      | [] => true
      | c :: _ => c = '\\'
    match Number.natOfDigits? digits with
    | some n => if n ≤ maxService && ends then .ok (some n, rest) else .error .invalidService
    | none => if ends then .ok (none, rest) else .error .invalidService
  | _ => .ok (none, cs)

/-- What is wrong with a host of a URL of some kind. -/
def hostFault? (kind : Kind) (host : List Char) : Option UrlFault :=
  match kind with
  | .other => Host.opaqueFault? host
  | .web => if host.isEmpty then some .emptyHost else Host.domainFault? host
  | .file => if host.isEmpty then none else Host.domainFault? host

/-- The user and the password before an `@`. An empty password counts as none. -/
def credentials (cs : List Char) : List Char × Option (List Char) :=
  let user := cs.takeWhile (· ≠ ':')
  let password := cs.drop (user.length + 1)
  (user, if password.isEmpty then none else some password)

/-- **The URL after the two slashes**: the authority, then the path. Whoever asks has to ask a
host, and a service has to have one. -/
def afterSlashes (scheme : String) (cs : List Char) : Except UrlFault Url := do
  let kind := Kind.ofScheme scheme
  let spelt := cs.takeWhile fun c => !kind.endsAuthority c
  let tail := cs.drop spelt.length
  let (asker, place) := match splitAtLast? spelt with
    | some (asker, place) => (some asker, place)
    | none => (none, spelt)
  if asker = some [] && place.isEmpty && !tail.isEmpty then throw .emptyHost
  let host := hostSpelling false place
  match hostFault? kind host with
  | some fault => throw fault
  | none => pure ()
  let rest := place.drop host.length
  if host.isEmpty && !rest.isEmpty then throw .emptyHost
  let (service, rest) ← service? rest
  let (user, password) := credentials (asker.getD [])
  if host.isEmpty && (!user.isEmpty || password.isSome) then throw .emptyHost
  let authority : Authority := ⟨user, password, host, service⟩
  pure (withTail scheme (some authority) (pathAfterAuthority kind) (rest ++ tail))

/-- The URL of a file after its colon. A drive's letter is no host. -/
def fileUrl (scheme : String) (cs : List Char) : Except UrlFault Url :=
  let kind := Kind.file
  match cs with
  | a :: b :: rest =>
    if kind.isSlash a && kind.isSlash b then
      let host := rest.takeWhile fun c => !kind.endsAuthority c
      let isDrive := match host with
        | [letter, mark] => letter.isAlpha && (mark = ':' || mark = '|')
        | _ => false
      if isDrive then
        .ok (withTail scheme (some ⟨[], none, [], none⟩) (pathAfterAuthority kind) rest)
      else
        match hostFault? kind host with
        | some fault => .error fault
        | none =>
          .ok (withTail scheme (some ⟨[], none, host, none⟩) (pathAfterAuthority kind)
            (rest.drop host.length))
    else .ok (withTail scheme none (pathAfterAuthority kind) cs)
  | _ => .ok (withTail scheme none (pathAfterAuthority kind) cs)

/-! ### Reading and writing -/

/-- **The URL that a text spells.** -/
def read (text : String) : Except UrlFault Url :=
  match splitScheme? (significant text) with
  | none => .error .relative
  | some (scheme, cs) =>
    match Kind.ofScheme scheme with
    | .web => afterSlashes scheme (cs.dropWhile Kind.web.isSlash)
    | .file => fileUrl scheme cs
    | .other =>
      match cs with
      | '/' :: '/' :: rest => afterSlashes scheme rest
      | '/' :: _ => .ok (withTail scheme none (pathAfterAuthority .other) cs)
      | _ => .ok (withTail scheme none id cs)

/-- The authority as text. -/
def authorityText (authority : Authority) : List Char :=
  let password := match authority.password with
    | some password => ':' :: password
    | none => []
  let asker := authority.user ++ password
  let service := match authority.service with
    | some number => ':' :: (toString number).toList
    | none => []
  ['/', '/'] ++ asker ++ (if asker.isEmpty then [] else ['@']) ++ authority.host ++ service

/-- **A URL as text.** -/
def text (url : Url) : List Char :=
  let marked (mark : Char) : Option (List Char) → List Char
    | some cs => mark :: cs
    | none => []
  url.scheme.toList ++ [':'] ++ (url.authority.map authorityText).getD [] ++ url.path ++
    marked '?' url.query ++ marked '#' url.fragment

end Url

end Storefront
