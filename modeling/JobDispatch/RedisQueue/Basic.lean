import JobDispatch.Error
import JobDispatch.Executor
import JobDispatch.Http.Target
import JobDispatch.Url.Parser

/-!
# The wake queue of a Redis server

Tokens are kept in a list of a Redis server: they are pushed at its front and popped at its back.
The server is named by a URL with the number of a database as its path. A wait is a blocking pop,
for a millisecond at least, because no time at all would mean to wait forever.
-/

namespace JobDispatch.RedisQueue

/-- Where a server is. -/
inductive Address
  /-- A host and a port. -/
  | network (host : Host) (port : Nat)
  /-- A socket in the file system. -/
  | socket (path : String)
deriving DecidableEq, Repr

/-- The error of an operation on the queue. -/
def failure (problem : String) : Error := ⟨.unavailable, "redis: " ++ problem⟩

/-- The error of a URL that names no server. -/
def badUrl (problem : String) : Error := failure (problem ++ "- InvalidClientConfig")

/-- The port of a server whose URL has none. -/
def usualPort : Nat := 6379

/-- The text without slashes at its ends. -/
def withoutSlashes (text : String) : String :=
  String.ofList (((text.toList.dropWhile (· = '/')).reverse.dropWhile (· = '/')).reverse)

/-- Checks the number of a database. -/
def checkDatabase (text : String) : Except Error Unit :=
  if text.isEmpty ∨ (Text.readInt64? text).isSome then .ok ()
  else .error (badUrl "Invalid database number")

/-- Checks the version of the protocol in a query. -/
def checkProtocol (pairs : List (String × String)) : Except Error Unit :=
  match (pairs.reverse.find? fun pair => pair.1 = "protocol").map (·.2) with
  | none => .ok ()
  | some version =>
    if ["2", "resp2", "3", "resp3"].contains version then .ok ()
    else .error (failure ("Invalid protocol version- InvalidClientConfig: " ++ version))

/-- The server of a URL. -/
def readAddress (text : String) : Except Error Address := do
  let unread := badUrl "Redis URL did not parse"
  let url ← (Url.read text).mapError fun _ => unread
  let pairs := (url.query.map Http.Target.pairs).getD []
  match url.scheme with
  | "redis" =>
    let some host := url.host? | throw (badUrl "Missing hostname")
    checkDatabase (withoutSlashes (Url.pathText url.path))
    checkProtocol pairs
    return .network host ((url.authority.bind (·.port)).getD usualPort)
  | "rediss" =>
    if url.host?.isNone then throw (badUrl "Missing hostname")
    throw (badUrl "can't connect with TLS, the feature is not enabled")
  | "unix" | "redis+unix" =>
    let .segments names := url.path | throw (badUrl "Missing path")
    checkDatabase (((pairs.find? fun pair => pair.1 = "db").map (·.2)).getD "")
    checkProtocol pairs
    return .socket (Url.pathText (.segments names))
  | _ => throw unread

/-- The words of a command that pushes a token. -/
def pushCommand (key token : String) : List String := ["LPUSH", key, token]

/-- The seconds of a wait, a thousandth at least. -/
def waitSeconds (longest : Duration) : Binary64 :=
  Executor.inSeconds (max longest (.ofMillis 1))

/-- The words of a command that waits for a token. -/
def waitCommand (key : String) (longest : Duration) : List String :=
  ["BRPOP", key, NumberText.render NumberText.json (waitSeconds longest)]

/-- What a server replies. -/
inductive Reply
  | status (text : String)
  | error (code detail : String)
  | integer (value : Int)
  | bulk (text : String)
  | missing
  | array (items : List Reply)
deriving Repr

/-- The names that codes of errors go by. -/
def errorNames : List (String × String) := [
  ("ERR", "ResponseError"), ("EXECABORT", "ExecAbortError"), ("LOADING", "BusyLoadingError"),
  ("NOSCRIPT", "NoScriptError"), ("MOVED", "Moved"), ("ASK", "Ask"), ("TRYAGAIN", "TryAgain"),
  ("CLUSTERDOWN", "ClusterDown"), ("CROSSSLOT", "CrossSlot"), ("MASTERDOWN", "MasterDown"),
  ("READONLY", "ReadOnly"), ("NOTBUSY", "NotBusy")]

/-- The wording of an error that a server replies. -/
def errorText (code detail : String) : String :=
  match (errorNames.find? fun entry => entry.1 = code).map (·.2) with
  | some name => "An error was signalled by the server- " ++ name ++ ": " ++ detail
  | none => code ++ ": " ++ detail

/-- What a reply to a push says. -/
def pushed : Reply → Except Error Unit
  | .error code detail => .error (failure (errorText code detail))
  | _ => .ok ()

/-- What a reply to a wait says: the key and a token, or nothing. -/
def received : Reply → Except Error (Option String)
  | .missing => .ok none
  | .array [.bulk _, .bulk token] => .ok (some token)
  | .error code detail => .error (failure (errorText code detail))
  | _ => .error (failure "Response was of incompatible type- TypeError: \"Not a bulk response\"")

end JobDispatch.RedisQueue
