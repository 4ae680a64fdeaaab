import JobDispatch.Http.Message

/-!
# Routes

The path decides what a request is about, and the method whether that is allowed. Paths match as
they are written, and a fixed name wins over an identifier. An identifier may be empty in front of
another segment, but not at the end of a path. What can be got can also be asked for by `HEAD`.
-/

namespace JobDispatch.Http

/-- What a path is about. -/
inductive Resource
  | health
  | ready
  | jobs
  | jobStats
  | nextJob
  | job (segment : List Char)
  | jobReport (segment : List Char)
  | workers
  | workerRegistration
  | workerHeartbeat
deriving DecidableEq, Repr

/-- What a path is about, if it is about anything. -/
def Resource.ofPath? (path : String) : Option Resource :=
  match Host.splitAt (· = '/') path.toList with
  | [[], first] => if first = "health".toList then some .health else none
  | [[], first, second] =>
    if first = "health".toList ∧ second = "ready".toList then some .ready else none
  | [] :: api :: version :: collection :: rest =>
    if api ≠ "api".toList ∨ version ≠ "v1".toList then none
    else if collection = "jobs".toList then
      match rest with
      | [] => some .jobs
      | [segment] =>
        if segment = "stats".toList then some .jobStats
        else if segment = "next".toList then some .nextJob
        else if segment.isEmpty then none
        else some (.job segment)
      | [segment, last] => if last = "report".toList then some (.jobReport segment) else none
      | _ => none
    else if collection = "workers".toList then
      match rest with
      | [] => some .workers
      | [segment] =>
        if segment = "register".toList then some .workerRegistration
        else if segment = "heartbeat".toList then some .workerHeartbeat
        else none
      | _ => none
    else none
  | _ => none

/-- The resource can be got. -/
def Resource.canGet : Resource → Bool
  | .nextJob | .jobReport _ | .workerRegistration | .workerHeartbeat => false
  | _ => true

/-- Something can be posted to the resource. -/
def Resource.canPost : Resource → Bool
  | .jobs | .nextJob | .jobReport _ | .workerRegistration | .workerHeartbeat => true
  | _ => false

/-- The methods that a resource allows. -/
def Resource.allowed (resource : Resource) : String :=
  match resource.canGet, resource.canPost with
  | true, true => "GET,HEAD,POST"
  | true, false => "GET,HEAD"
  | false, true => "POST"
  | false, false => ""

/-- What is done with a resource. -/
inductive Access
  | get
  | post
deriving DecidableEq, Repr

/-- The access that a method means, if the resource allows it. -/
def Resource.access? (resource : Resource) (method : String) : Option Access :=
  if (method = "GET" ∨ method = "HEAD") ∧ resource.canGet then some .get
  else if method = "POST" ∧ resource.canPost then some .post
  else none

end JobDispatch.Http
