import JobDispatch.Proofs.Backend.Run
import JobDispatch.Proofs.Http.Effect
import JobDispatch.Proofs.Http.Path
import JobDispatch.Proofs.Job.Format

/-!
# Inquiries over the interface

A client that asks for what a worker needs makes exactly one operation of the dispatcher, the one
that a worker in the same process makes. Its request is read as it was meant, and the response is
read back: an answer as the answer, and an error as the error that has its status.
-/

namespace JobDispatch

namespace Program

variable {α β γ : Type}

/-- Programs one after another may be grouped in either way. -/
theorem bind_bind (program : Program α) (first : α → Program β) (second : β → Program γ) :
    (program.bind first).bind second = program.bind fun value => (first value).bind second := by
  induction program with
  | done value => rfl
  | call request limit next ih => exact congrArg (call request limit) (funext ih)
  | push token next ih => exact congrArg (push token) (funext ih)

/-- What comes after a changed result comes after the result. -/
theorem change_bind (program : Program α) (result : α → β) (next : β → Program γ) :
    (program.change result).bind next = program.bind fun value => next (result value) :=
  bind_bind program _ next

/-- A result may be changed in two steps. -/
theorem change_change (program : Program α) (first : α → β) (second : β → γ) :
    (program.change first).change second = program.change fun value => second (first value) :=
  change_bind program first _

end Program

/-- An error as it arrives over HTTP. -/
def Error.overHttp (error : Error) : Error :=
  match error.kind with
  | .persistence => ⟨.unavailable, error.detail⟩
  | .executionFailed | .internal => ⟨.internal, "500 Internal Server Error: " ++ error.message⟩
  | _ => error

/-- A passing condition arrives as one, and nothing else does. -/
theorem Error.isTransient_overHttp (error : Error) :
    error.overHttp.isTransient = error.isTransient := by
  obtain ⟨kind, detail⟩ := error
  cases kind <;> rfl

/-- The result of an operation as it arrives over HTTP, given how its answers arrive. -/
def overHttp {α β : Type} (arrives : α → Except Error β) : Except Error α → Except Error β
  | .ok value => arrives value
  | .error error => .error error.overHttp

namespace Http

open Json (Format Record)

/-- A record with one text is carried. -/
theorem carries_oneText (name key text : String) : (oneText name key).Carries 1 text := by
  refine Record.carries_plain ?_ ⟨Format.carries_text 0 text, trivial⟩ rfl
  exact List.pairwise_singleton _ key

/-- An identifier and a status are carried. -/
theorem carries_idStatus (id : ResourceId) (status : String) :
    Inquiry.idStatus.Carries 1 (id, status) :=
  Record.carries_plain (by decide)
    ⟨ResourceId.carries_format 0 id, Format.carries_text 0 status, trivial⟩ rfl

/-- An accepted report is carried. -/
theorem carries_acceptedReport (report : OutcomeReport) : Inquiry.acceptedReport.Carries 1 report :=
  Record.carries_plain (by decide)
    ⟨ResourceId.carries_format 0 report.jobId, JobStatus.carries_format 0 report.status,
      Format.carries_int32 0 report.retryCount, OutcomeDecision.carries_format 0 report.decision,
      trivial⟩ rfl

/-- The response to an error stands for the error as it arrives over HTTP. -/
theorem error_errorResponse (error : Error) : (errorResponse error).error = error.overHttp := by
  have read (message : String) : (oneText "ErrorBody" "error").read
      (Json.ofFields [("error", .string message)]).compact = .ok message :=
    (carries_oneText "ErrorBody" "error" message).read_write (by decide)
  have failed : statusText 500 ++ ": " = "500 Internal Server Error: " := by decide +kernel
  obtain ⟨kind, detail⟩ := error
  cases kind <;> simp only [errorResponse, Response.error, Response.json, read, failed] <;> rfl

/-- How a client takes a response to an inquiry. -/
def Inquiry.take {α : Type} (inquiry : Inquiry α) (response : Response) : Except Error α :=
  if response.isSuccess then inquiry.read response else .error response.error

/-- The response to an operation, given the one to each of its answers. -/
def responseTo {α : Type} (answered : α → Response) : Except Error α → Response
  | .ok value => answered value
  | .error error => errorResponse error

/-- The response that a handler comes to, either way. -/
def eitherWay : Except Response Response → Response
  | .ok response => response
  | .error response => response

/-- A client reads a response of success. -/
theorem Inquiry.take_success {α : Type} (inquiry : Inquiry α) {response : Response}
    (success : response.isSuccess) : inquiry.take response = inquiry.read response := if_pos success

/-- A client takes the response to an error as the error that arrives over HTTP. -/
theorem Inquiry.take_errorResponse {α : Type} (inquiry : Inquiry α) (error : Error) :
    inquiry.take (errorResponse error) = .error error.overHttp := by
  rw [take, if_neg (by simp [errorResponse_isSuccess]), error_errorResponse]

section

variable {α : Type} {client : Client} {dispatcher : Dispatcher}

/-- A client that speaks HTTP sends the request of an inquiry and takes the response. -/
theorem Client.ask_program {inquiry : Inquiry α} {url : Url}
    (named : client.urlOf inquiry = .ok url) (web : url.scheme = "http" ∨ url.scheme = "https") :
    Attempt.program
        (client.ask (fun _ _ request => (respond dispatcher request).change some) inquiry) =
      (respond dispatcher (requestOf inquiry url)).change inquiry.take := by
  have spoken : ¬ (url.scheme ≠ "http" ∧ url.scheme ≠ "https") := by
    rintro ⟨first, second⟩
    exact web.elim first second
  unfold Client.ask
  rw [named]
  change ExceptT.run (m := Program) (if _ then _ else _) = _
  rw [if_neg spoken]
  change Program.bind (Program.bind (Program.change _ _) _) _ = _
  rw [Program.bind_bind, Program.change_bind]
  refine congrArg (respond dispatcher _).bind (funext fun response => ?_)
  change ExceptT.run (m := Program) (if _ then _ else _) = _
  rw [Inquiry.take]
  by_cases success : response.isSuccess
  · rw [if_pos success, if_pos success]
    rfl
  · rw [if_neg success, if_neg success]
    rfl

/-- A posted request that is routed is answered by the handler of the resource. -/
theorem respond_posted {request : Request} {resource : Resource}
    (routed : Resource.ofPath? request.target.path = some resource)
    (posted : request.method = "POST") (canPost : resource.canPost) :
    respond dispatcher request =
      (serve dispatcher request resource .post).run.change eitherWay := by
  have meant : resource.access? request.method = some .post := by
    rw [Resource.access?, posted, if_neg (by simp), if_pos ⟨rfl, canPost⟩]
  have same (response : Response) : shown request.method response = response := by
    rw [shown, if_neg (by simp [posted])]
  rw [respond, routed]
  dsimp only
  rw [meant]
  simp only [same]
  rfl

/-- An operation of the dispatcher whose answer becomes the response. -/
theorem ask_return {attempt : Attempt α} {next : α → Handler Response} {answered : α → Response}
    (returns : ∀ value, next value = return answered value) :
    (ask attempt >>= next).run.change eitherWay = attempt.program.change (responseTo answered) := by
  change Program.change (Program.bind (Program.change _ _) _) _ = _
  rw [Program.change_bind, Program.change, Program.bind_bind]
  refine congrArg attempt.program.bind (funext fun result => ?_)
  cases result with
  | ok value =>
    change Program.bind (next value) _ = _
    rw [returns value]
    rfl
  | error error => rfl

/-- A check in front of a handler that passes leaves the rest of the handler. -/
theorem check_passes {result : Except Response α} {value : α} (passes : result = .ok value)
    (next : α → Handler Response) : ((liftM result : Handler α) >>= next) = next value := by
  subst passes
  rfl

/-- The written form of an identifier is read, with a name for messages. -/
theorem parseId_text (what : String) (id : ResourceId) : parseId what id.text = .ok id := by
  rw [parseId, id.trim_text, id.ofText?_text]

/-- The body of an inquiry is read as it was meant, unless it is too long. -/
theorem read_requestOf {β : Type} {inquiry : Inquiry β} {body : Json}
    (given : inquiry.body = some body) (url : Url)
    (short : body.compact.utf8ByteSize ≤ longestBody) {limit : Nat}
    (portable : body.Portable limit) {format : Format α} {value : α}
    (decoded : format.decode Json.nestingLimit body.draft = .ok value) :
    (Client.requestOf inquiry url).read format = .ok value := by
  have headers : (Client.requestOf inquiry url).headers =
      [("content-type", "application/json".toUTF8)] := by
    rw [Client.requestOf, given]
    rfl
  have typed : (([("content-type", "application/json".toUTF8)].find? fun header =>
      header.1.toLower = "content-type").map (·.2)).any isJsonType = true := by decide +kernel
  rw [← headers] at typed
  have written : (Client.requestOf inquiry url).body = body.compact.toUTF8 := by
    rw [Client.requestOf, given]
    rfl
  have size : body.compact.toUTF8.size ≤ longestBody := short
  rw [Request.read, Request.header?, if_neg (by simp [typed]), written, if_neg (by omega),
    Format.readBytes_toUTF8, Format.read, Json.readAll_compact portable, decoded]

/-- The body of an inquiry that a format carries is read as the value. -/
theorem read_carried {β : Type} {inquiry : Inquiry β} {format : Format α} {value : α}
    (given : inquiry.body = some (format.encode value)) (url : Url)
    (short : (inquiry.body.elim "" Json.compact).utf8ByteSize ≤ longestBody) {limit : Nat}
    (carries : format.Carries limit value) (allowed : limit < Json.nestingLimit) :
    (Client.requestOf inquiry url).read format = .ok value := by
  rw [given] at short
  exact read_requestOf given url short carries.portable (carries.decoded _ allowed)

/-- The body of a response that a format carries is read as the value. -/
theorem readBody_carried {format : Format α} {value : α} {limit : Nat}
    (carries : format.Carries limit value) (allowed : limit < Json.nestingLimit) (status : Nat) :
    Inquiry.readBody format (.json status (format.encode value)) = .ok value := by
  have read : format.read (format.encode value).compact = .ok value := carries.read_write allowed
  rw [Inquiry.readBody, Response.json]
  dsimp only
  rw [read]
  rfl

/-- A client at the root of the interface asks it under the segments of the inquiry. -/
theorem Client.urlOf_literal {inquiry : Inquiry α} (rooted : client.base.path = .segments [""])
    {first : List Char} {others : List (List Char)}
    (shown : ("api/v1/" ++ inquiry.path).toList = first ++ others.flatMap ('/' :: ·))
    (literal : ∀ segment ∈ first :: others, Url.IsLiteralSegment segment) :
    ∃ url, client.urlOf inquiry = .ok url ∧ url.scheme = client.base.scheme ∧
      Host.splitAt (· = '/') (requestOf inquiry url).target.path.toList =
        [] :: first :: others := by
  have resolved := Url.resolve_literal rooted shown literal inquiry.query
  refine ⟨{ client.base with
    path := .segments ((first :: others).map String.ofList), query := inquiry.query,
    fragment := none }, ?_, rfl, Url.splitAt_pathText literal⟩
  rw [urlOf, resolved]
  rfl

/-- A posted inquiry is one operation of the dispatcher, with its response taken. -/
theorem Client.ask_posted {β : Type} (inquiry : Inquiry β)
    (rooted : client.base.path = .segments [""])
    (web : client.base.scheme = "http" ∨ client.base.scheme = "https")
    {first : List Char} {others : List (List Char)}
    (shown : ("api/v1/" ++ inquiry.path).toList = first ++ others.flatMap ('/' :: ·))
    (literal : ∀ segment ∈ first :: others, Url.IsLiteralSegment segment) (resource : Resource)
    (routed : ∀ path : String, Host.splitAt (· = '/') path.toList = [] :: first :: others →
      Resource.ofPath? path = some resource)
    (posted : inquiry.method = "POST") (canPost : resource.canPost) {attempt : Attempt α}
    {answered : α → Response}
    (handled : ∀ url, (serve dispatcher (requestOf inquiry url) resource .post).run.change
      eitherWay = attempt.program.change (responseTo answered)) :
    Attempt.program
        (client.ask (fun _ _ request => (respond dispatcher request).change some) inquiry) =
      attempt.program.change (overHttp fun value => inquiry.take (answered value)) := by
  obtain ⟨url, named, scheme, split⟩ := urlOf_literal rooted shown literal
  rw [ask_program named (scheme ▸ web), respond_posted (routed _ split) posted canPost, handled,
    Program.change_change]
  refine congrArg attempt.program.change (funext fun result => ?_)
  cases result with
  | ok value => rfl
  | error error => exact inquiry.take_errorResponse error

end

end Http

end JobDispatch
