import JobDispatch.Cli.Run
import JobDispatch.Http.Wire
import JobDispatch.RedisQueue.Wire
import Std.Async.DNS
import Std.Async.Signal
import Std.Async.TCP
import Std.Time

/-!
# The program

The program on a real machine: files, connections, the clock and signals. It decides nothing by
itself; what is asked for, read and printed comes from the modules that it joins. Connections are
plain, and a host is taken at its first address.
-/

namespace JobDispatch.Machine

open Std.Async (Async)
open Std.Async.TCP (Socket.Client)
open Std.Net (IPAddr SocketAddress)

/-- Whether the program has been asked to stop. -/
abbrev Stop := IO.Ref Bool

/-- The milliseconds between two looks at something that is awaited. -/
def lookEvery : UInt32 := 5

/-- Waits until a condition holds or a time of the steady clock has come. -/
partial def waitUntil (deadline : Nat) (holds : IO Bool) : IO Bool := do
  if ← holds then return true
  if deadline ≤ (← IO.monoMsNow) then return false
  IO.sleep lookEvery
  waitUntil deadline holds

/-- The time of the steady clock after a duration. -/
def deadlineAfter (length : Duration) : IO Nat := return (← IO.monoMsNow) + length.millisUp

/-- Performs an action of the network up to a deadline, unless it fails. -/
def within {α : Type} (deadline : Nat) (stop : IO Bool) (action : Async α) : IO (Option α) := do
  let task ← action.toIO
  discard (waitUntil deadline do return (← IO.hasFinished task) || (← stop))
  if ← IO.hasFinished task then
    try return some (← task.block) catch _ => return none
  else return none

/-- Nothing stops an action early. -/
def never : IO Bool := return false

/-- The first address of a host. -/
def resolve (deadline : Nat) : Host → IO (Option IPAddr)
  | .ipv4 address =>
    return (Std.Net.IPv4Addr.ofString (Host.ipv4Text address)).map IPAddr.v4
  | .ipv6 pieces => return (Std.Net.IPv6Addr.ofString (Host.ipv6Text pieces)).map IPAddr.v6
  | .name name => do
    let found ← within deadline never (Std.Async.DNS.getAddrInfo name "" none)
    return (found.getD #[])[0]?

/-- Connects to a port of a host. -/
def connect (deadline : Nat) (host : Host) (port : Nat) : IO (Option Socket.Client) := do
  let some address ← resolve deadline host | return none
  let socket ← Socket.Client.mk
  let endpoint : SocketAddress := match address with
    | .v4 addr => .v4 ⟨addr, .ofNat port⟩
    | .v6 addr => .v6 ⟨addr, .ofNat port⟩
  return (← within deadline never (socket.connect endpoint)).map fun _ => socket

/-- Bytes for a socket. -/
def toBytes (bytes : List UInt8) : ByteArray := ⟨bytes.toArray⟩

/-- All that arrives until the other side closes. -/
partial def receiveAll (deadline : Nat) (socket : Socket.Client) (before : ByteArray) :
    IO (Option ByteArray) := do
  match ← within deadline never (socket.recv? 65536) with
  | some (some bytes) => receiveAll deadline socket (before ++ bytes)
  | some none => return some before
  | none => return none

/-- Sends a request over a connection of its own. -/
def send : Http.Transport IO := fun timeout url request => do
  let some host := url.host? | return none
  if url.scheme ≠ "http" then return none
  let deadline ← deadlineAfter timeout
  let port := (url.authority.bind (·.port)).getD 80
  let some socket ← connect deadline host port | return none
  let bytes := request.wire (url.authority.elim "" Url.authorityText)
  let some _ ← within deadline never (socket.send (toBytes bytes)) | return none
  let some received ← receiveAll deadline socket .empty | return none
  return Http.Response.ofWire? received.toList

/-- A connection to the server of the wake queue. -/
structure Queue where
  /-- The socket. -/
  socket : Socket.Client
  /-- What has arrived and has not been read. -/
  arrived : IO.Ref (List UInt8)

/-- The next reply of a server; none when a stop or the deadline comes first. -/
partial def Queue.reply (queue : Queue) (deadline : Nat) (stop : IO Bool) :
    IO (Option RedisQueue.Reply) := do
  match RedisQueue.readReply 8 (← queue.arrived.get) with
  | .complete reply rest =>
    queue.arrived.set rest
    return some reply
  | .malformed => return none
  | .partly =>
    match ← within deadline stop (queue.socket.recv? 65536) with
    | some (some bytes) =>
      queue.arrived.modify (· ++ bytes.toList)
      queue.reply deadline stop
    | _ => return none

/-- Connects to the server of the wake queue. -/
def connectQueue : RedisQueue.Address → IO (Except String Queue)
  | .socket _ => return .error "No such file or directory (os error 2)"
  | .network host port => do
    match ← connect (← deadlineAfter (.ofSeconds 10)) host port with
    | some socket => return .ok ⟨socket, ← IO.mkRef []⟩
    | none => return .error "Connection refused (os error 111)"

/-- Waits for a wake token; no reply within some seconds more is a failure. -/
def Queue.wait (queue : Queue) (key : String) (longest : Duration) (stop : IO Bool) :
    IO (Except Error (Option String)) := do
  let deadline := (← deadlineAfter longest) + 5000
  let words := RedisQueue.waitCommand key longest
  match ← within deadline stop (queue.socket.send (toBytes (RedisQueue.commandBytes words))) with
  | none => return .error (RedisQueue.failure "broken pipe")
  | some _ =>
    match ← queue.reply deadline stop with
    | some reply => return RedisQueue.received reply
    | none => return .error (RedisQueue.failure "broken pipe")

/-- The time of the wall clock. -/
def wallClock : IO Instant := do
  let now ← Std.Time.Timestamp.now
  return (Instant.epoch.add? now.toNanosecondsSinceUnixEpoch.val).getD .epoch

/-- Asks the orchestrator for a worker. -/
def coordinate (client : Http.Client) (call : CoordinatorCall) :
    IO (Except Error call.Answer) := do
  (client.ask send (Http.Inquiry.ofCall (← wallClock) call)).run

/-- Sends heartbeats until the worker has ended. -/
partial def heartbeats (client : Http.Client) (worker : ResourceId) (interval : Duration)
    (ended : Stop) (due : Nat) : IO Unit := do
  if ← waitUntil due ended.get then return
  discard (coordinate client (.heartbeat worker))
  heartbeats client worker interval ended (max due (← IO.monoMsNow) + interval.millisUp)

/-- Runs a job within a limit. -/
def execute (unit : Duration) (job : ClaimedJob) (limit : Duration) : IO WorkerLoop.Event := do
  match Executor.run? unit job.jobType job.payload with
  | none => throw (.userError "a time left its range")
  | some execution =>
    if execution.length ≤ limit then
      discard (waitUntil (← deadlineAfter execution.length) never)
      return .executed execution.result
    else
      discard (waitUntil (← deadlineAfter limit) never)
      return .overran

/-- Pauses, unless a stop comes first. -/
def pause (length : Duration) (stop : Stop) : IO WorkerLoop.Event := do
  if ← waitUntil (← deadlineAfter length) stop.get then return .cancelled else return .paused

/-- Gives the loop of a worker what it asks for. -/
def serve (order : Cli.WorkerOrder) (queue : Queue) (stop : Stop) :
    WorkerLoop.Request → IO WorkerLoop.Event
  | .register hostname => return .registered (← coordinate order.client (.register hostname))
  | .claim worker => return .claimed (← coordinate order.client (.claimNext worker))
  | .execute job limit => execute order.unit job limit
  | .report job worker outcome =>
    return .reported (← coordinate order.client (.reportOutcome job worker outcome))
  | .pause length => pause length stop
  | .wait longest => do
    let woken ← queue.wait order.key longest stop.get
    if ← stop.get then return .cancelled else return .woken woken

/-- The log takes the lines of a worker, unless it is turned down. -/
def logs : IO Bool := do
  match ← IO.getEnv "RUST_LOG" with
  | some level => return level.toLower ∉ ["", "off", "error", "warn"]
  | none => return true

/-- Takes the loop of a worker to its end. -/
partial def drive (order : Cli.WorkerOrder) (queue : Queue) (stop ended : Stop)
    (phase : WorkerLoop.Phase) : IO (Except Error Unit) := do
  match phase.request? order.settings with
  | none =>
    match phase with
    | .stopped result => return result
    | .crashed => throw (.userError "a count left its range")
    | _ => return .ok ()
  | some request =>
    let event ← serve order queue stop request
    match event with
    | .registered (.ok worker) =>
      let due := (← IO.monoMsNow) + order.settings.heartbeatInterval.millisUp
      discard (IO.asTask
        (heartbeats order.client worker.id order.settings.heartbeatInterval ended due) .dedicated)
    | _ => pure ()
    drive order queue stop ended (phase.next order.settings (← logs) (← stop.get) event)

/-- Sets a flag when a signal comes. The watch lasts until the waiter is stopped. -/
def watch (signal : Std.Async.Signal) (stop : Stop) : IO Std.Async.Signal.Waiter := do
  let waiter ← Std.Async.Signal.Waiter.mk signal false
  discard (Std.Async.AsyncTask.mapIO (fun _ => stop.set true) (← waiter.wait))
  return waiter

/-- Connects to the wake queue and runs a worker until a signal stops it. -/
def work (order : Cli.WorkerOrder) : ExceptT Cli.Failure IO Unit := do
  let queue ← match ← (connectQueue order.queue : IO _) with
    | .ok queue => pure queue
    | .error problem => throw (Cli.queueFailure (RedisQueue.failure problem))
  let stop ← (IO.mkRef false : IO _)
  let ended ← (IO.mkRef false : IO _)
  let terminate ← watch .sigterm stop
  let interrupt ← watch .sigint stop
  let result ← (drive order queue stop ended .registering : IO _)
  ended.set true
  terminate.stop
  interrupt.stop
  match result with
  | .ok () => return
  | .error error => throw (.under "Worker failed to start" (.ofError error))

/-- Reads a file. -/
def file (name : String) : IO (Except Cli.FileFlaw String) := do
  try return .ok (← IO.FS.readFile name)
  catch
    | .noFileOrDirectory _ _ _ => return .error .missing
    | error => return .error (.unreadable (toString error))

/-- The variables of the environment that the program looks at. -/
def consulted : List String :=
  ["DATABASE_URL", "REDIS_URL", "JOBRELAY_LISTEN", "JOBRELAY_API_URL", "JOBRELAY_CONFIG",
    "HOSTNAME"]

end JobDispatch.Machine

open JobDispatch in
/-- Runs the program on its arguments. -/
def main (arguments : List String) : IO UInt32 := do
  let environment ← Machine.consulted.filterMapM fun name => do
    return (← IO.getEnv name).map fun value => (name, value)
  let outside : Cli.Surroundings IO := {
    lookup := fun name => (environment.find? fun entry => entry.1 = name).map (·.2)
    file := Machine.file
    send := Machine.send
    work := Machine.work }
  let ending ← Cli.run outside arguments
  (← IO.getStdout).putStr ending.output
  (← IO.getStderr).putStr ending.complaint
  return ending.code
