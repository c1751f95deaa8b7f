import Storefront.Address.Fault

/-!
# Faults

What can go wrong, by who notices it, each as a cause with its own message.

| type | raised by |
| --- | --- |
| `EngineFault` | the engine, for one statement |
| `CircuitFault` | the circuit breaker in front of an operation |
| `OriginFault` | the origin store |
| `SearchFault` | the search, to its caller |

A caller of a search only ever sees a fault that leaves nothing to answer with; a fault of the
engine sends the search to the origin store instead (`SearchFault.triggersFallback`).
-/

namespace Storefront

/-! ### The engine -/

/-- Why an answer of the engine could not be read. -/
inductive Unreadable where
  /-- A column that the statement asked for is missing. -/
  | noColumn (name : String)
  /-- A set of counts without its column of counts. -/
  | noCounts
  /-- A count without a row. -/
  | noCount
  | other (message : String)
deriving DecidableEq

/-- What was found unreadable. -/
def Unreadable.message : Unreadable → String
  | .noColumn name => "missing column '" ++ name ++ "'"
  | .noCounts => "missing count column"
  | .noCount => "count query returned no rows"
  | .other message => message

/-- Why the engine has not answered a statement. -/
inductive EngineFault where
  /-- It could not be reached in time, which says nothing about the statement. -/
  | unreachable (reason : String)
  /-- It refused the statement. -/
  | refused (reason : String)
  /-- Its answer made no sense. -/
  | unreadable (cause : Unreadable)
deriving DecidableEq

namespace EngineFault

/-- The fault in words. -/
def message : EngineFault → String
  | .unreachable reason => "search engine unreachable: " ++ reason
  | .refused reason => "search engine query failed: " ++ reason
  | .unreadable cause => "could not decode engine row: " ++ cause.message

/-- Whether the engine could not be reached. -/
def isUnreachable : EngineFault → Bool
  | .unreachable _ => true
  | _ => false

end EngineFault

/-! ### The circuit breaker -/

/-- Why an operation behind a circuit breaker has no result. -/
inductive CircuitFault (ε : Type) where
  /-- The circuit is open and the operation was not tried. -/
  | rejected
  /-- The operation failed. -/
  | failed (fault : ε)
deriving DecidableEq

/-- The fault in words, given those for the operation's own. -/
def CircuitFault.message {ε : Type} (inner : ε → String) : CircuitFault ε → String
  | .rejected => "circuit breaker open, request rejected"
  | .failed fault => "operation failed: " ++ inner fault

/-- What is said of an engine behind an open circuit. -/
def circuitOpen : String := "circuit breaker open"

/-! ### The origin store -/

/-- Why there is no connection to a database. -/
inductive ConnectionFault where
  /-- The name of its file holds a null character. -/
  | nullInName
  /-- The path of its socket holds a null character. -/
  | nullInPath
  /-- The path of its socket is too long. -/
  | longPath
  /-- The path of its socket is empty. -/
  | emptyPath
  /-- There is no socket at the path. -/
  | noSocket
deriving DecidableEq

/-- The fault in words. -/
def ConnectionFault.message : ConnectionFault → String
  | .nullInName => "filename passed to SQLite must not contain nul bytes"
  | .nullInPath => "paths must not contain interior null bytes"
  | .longPath => "path must be shorter than SUN_LEN"
  | .emptyPath => "Invalid argument (os error 22)"
  | .noSocket => "No such file or directory (os error 2)"

/-- What the origin's database complains about. -/
inductive DatabaseFault where
  /-- Its address leads nowhere. -/
  | address (fault : AddressFault)
  /-- It cannot be connected at all. -/
  | connection (fault : ConnectionFault)
  /-- The server has not answered in time. -/
  | unanswered
  /-- The file cannot be opened. -/
  | cannotOpen
  /-- The file cannot be read. -/
  | unreadable
  /-- The file whose permissions the file takes over cannot be found. -/
  | noPattern
  /-- The file is on another machine. -/
  | foreignAuthority (name : String)
  /-- There is no such mode of a kind. -/
  | noMode (kind name : String)
  /-- The mode of access asks for more than is granted. -/
  | deniedMode (name : String)
  /-- There is no such way to a file system. -/
  | noFileSystem (name : String)
  /-- The database has no table of the name. -/
  | noTable (name : String)
  /-- The name of a table that is no name, because a digit begins it. -/
  | noName (name : String)
  /-- The condition is nested too deep. -/
  | tooDeep
  /-- Too many values are left open. -/
  | tooManyValues
  /-- A pattern is too long. -/
  | patternTooLong
  | other (message : String)
deriving DecidableEq

/-- What is said first when the database refuses something, with a code for the reason. -/
def refusal (code : Nat) (reason : String) : String :=
  "error returned from database: (code: " ++ toString code ++ ") " ++ reason

/-- The complaint in words. -/
def DatabaseFault.message : DatabaseFault → String
  | .address fault => fault.message
  | .connection fault => "error communicating with database: " ++ fault.message
  | .unanswered => "pool timed out while waiting for an open connection"
  | .cannotOpen => refusal 14 "unable to open database file"
  | .unreadable => refusal 266 "disk I/O error"
  | .noPattern => refusal 1802 "disk I/O error"
  | .foreignAuthority name => refusal 1 ("invalid uri authority: " ++ name)
  | .noMode kind name => refusal 1 ("no such " ++ kind ++ " mode: " ++ name)
  | .deniedMode name => refusal 3 ("access mode not allowed: " ++ name)
  | .noFileSystem name => refusal 1 ("no such vfs: " ++ name)
  | .noTable name => refusal 1 ("no such table: " ++ name)
  | .noName name => refusal 1 ("unrecognized token: \"" ++ name ++ "\"")
  | .tooDeep => refusal 1 "Expression tree is too large (maximum depth 1000)"
  | .tooManyValues => refusal 1 "too many SQL variables"
  | .patternTooLong => refusal 1 "LIKE or GLOB pattern too complex"
  | .other message => message

/-- Why the origin store has no answer. -/
inductive OriginFault where
  | notConfigured
  | database (fault : DatabaseFault)
deriving DecidableEq

/-- The fault in words. -/
def OriginFault.message : OriginFault → String
  | .notConfigured => "origin store not configured"
  | .database fault => "origin store error: " ++ fault.message

/-! ### The search -/

/-- Why a request describes no search at all. -/
inductive RequestFault where
  | postType (name : String)
  | other (message : String)
deriving DecidableEq

/-- The fault in words. -/
def RequestFault.message : RequestFault → String
  | .postType name => "invalid post type '" ++ name ++ "'"
  | .other message => message

/-- Why settings cannot be used. -/
inductive SettingsFault where
  | indexName (name : String)
  | ranker (name : String)
  | other (message : String)
deriving DecidableEq

/-- The fault in words. -/
def SettingsFault.message : SettingsFault → String
  | .indexName name => "invalid index name '" ++ name ++ "'"
  | .ranker name => "invalid ranker '" ++ name ++ "'"
  | .other message => message

/-- Why a search has no result, or could not be set up. -/
inductive SearchFault where
  | engineUnreachable (reason : String)
  | engineQuery (reason : String)
  | origin (fault : OriginFault)
  | request (fault : RequestFault)
  | settings (fault : SettingsFault)
deriving DecidableEq

namespace SearchFault

/-- The fault in words. -/
def message : SearchFault → String
  | .engineUnreachable reason => "search engine unreachable: " ++ reason
  | .engineQuery reason => "search engine query error: " ++ reason
  | .origin fault => fault.message
  | .request fault => "invalid filter spec: " ++ fault.message
  | .settings fault => "configuration error: " ++ fault.message

/-- The fault's label in measurements. -/
def reason : SearchFault → String
  | .engineUnreachable _ => "engine_unreachable"
  | .engineQuery _ => "engine_query"
  | .origin _ => "origin"
  | .request _ => "invalid_filter_spec"
  | .settings _ => "config"

/-- Whether the search goes to the origin store instead. -/
def triggersFallback : SearchFault → Bool
  | .engineUnreachable _ => true
  | .engineQuery _ => true
  | _ => false

/-- An engine's fault, as the search reports it. -/
def ofEngine : EngineFault → SearchFault
  | .unreachable reason => .engineUnreachable reason
  | .refused reason => .engineQuery reason
  | .unreadable cause => .engineQuery cause.message

/-- The fault of an engine behind a circuit breaker, as the search reports it. -/
def ofCircuit : CircuitFault EngineFault → SearchFault
  | .rejected => .engineUnreachable circuitOpen
  | .failed fault => ofEngine fault

end SearchFault

end Storefront
