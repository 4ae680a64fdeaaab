import JobDispatch.Proofs.Http.Exchange

/-!
# What workers ask for over HTTP

Each of the four calls of a worker has one theorem: over HTTP it is the operation of the dispatcher
that it is in the same process, and only the result is translated. The four differ in their paths,
in the formats of their bodies and in what the client makes of the response.
-/

namespace JobDispatch

/-- The outcome that is recorded for a report over HTTP: a blank text of a failure gives way. -/
def JobOutcome.named : JobOutcome → JobOutcome
  | .success => .success
  | .failure error => .failure (if Text.isBlankText error then "job failed" else error)

namespace Http

open Json (Format Members Record)

/-- The body of a report, and the request as which it is read. -/
theorem read_report (job worker : ResourceId) (outcome : JobOutcome) :
    ∃ fields request, (Inquiry.reportOutcome job worker outcome).body = some (.object fields) ∧
      (Json.object fields).Portable 1 ∧
      ReportRequest.format.decode Json.nestingLimit (Json.object fields).draft = .ok request ∧
      request.workerId = some worker.text ∧ request.outcome = .ok outcome.named := by
  have text (value : String) := (Format.carries_text 1 value).decoded 127 (by decide)
  have optional (value : String) :=
    (Format.carries_optionText 1 (some value)).decoded 127 (by decide)
  cases outcome with
  | success =>
    have sorted : [("status", Json.string "SUCCESS"), ("worker_id", .string worker.text)].Pairwise
        fun left right => left.1 < right.1 :=
      List.pairwise_map.mp (show ["status", "worker_id"].Pairwise (· < ·) by decide)
    have given : (Inquiry.reportOutcome job worker .success).body =
        some (.object [("status", .string "SUCCESS"), ("worker_id", .string worker.text)]) :=
      congrArg some (Json.ofFields_sorted sorted)
    refine ⟨_, ⟨"SUCCESS", none, some worker.text⟩, given, .object sorted ?_, ?_, rfl, rfl⟩
    · simp only [List.forall_mem_cons]
      exact ⟨.string _, .string _, nofun⟩
    · refine Record.decode_plain ("SUCCESS", none, some worker.text, ()) (by decide) (by simp)
        (by decide) ?_ ⟨by simp, fun _ => rfl, by simp, trivial⟩
      simp only [List.forall_mem_cons]
      refine ⟨Members.gives_first (text _), ?_, nofun⟩
      exact Members.gives_rest (by decide) <| Members.gives_rest (by decide) <|
        Members.gives_first (optional _)
  | failure error =>
    have sorted : [("error", Json.string error), ("status", .string "FAILED"),
        ("worker_id", .string worker.text)].Pairwise fun left right => left.1 < right.1 :=
      List.pairwise_map.mp (show ["error", "status", "worker_id"].Pairwise (· < ·) by decide)
    have given : (Inquiry.reportOutcome job worker (.failure error)).body =
        some (.object [("error", .string error), ("status", .string "FAILED"),
          ("worker_id", .string worker.text)]) := by
      unfold Inquiry.reportOutcome
      rw [JobOutcome.encode_failure]
      exact congrArg some (Json.ofFields_sorted sorted)
    refine ⟨_, ⟨"FAILED", some error, some worker.text⟩, given, .object sorted ?_, ?_, rfl, ?_⟩
    · simp only [List.forall_mem_cons]
      exact ⟨.string _, .string _, .string _, nofun⟩
    · refine Record.decode_plain ("FAILED", some error, some worker.text, ()) (by decide) (by simp)
        (by decide) ?_ ⟨by simp, by simp, by simp, trivial⟩
      simp only [List.forall_mem_cons]
      refine ⟨Members.gives_rest (by decide) (Members.gives_first (optional _)),
        Members.gives_first (text _), ?_, nofun⟩
      exact Members.gives_rest (by decide) <| Members.gives_rest (by decide) <|
        Members.gives_first (optional _)
    · have other : "FAILED" ≠ "SUCCESS" := by decide
      rw [ReportRequest.outcome, if_neg other, if_pos rfl, JobOutcome.named, Option.filter_some]
      cases Text.isBlankText error <;> rfl

section

variable {client : Client} {dispatcher : Dispatcher} {now : Instant}
  (rooted : client.base.path = .segments [""])
  (web : client.base.scheme = "http" ∨ client.base.scheme = "https")
include rooted web

/-- Registering over HTTP registers, and the answer has the identifier and the status. -/
theorem coordinate_register {hostname : String}
    (short : ((Inquiry.register hostname now).body.elim "" Json.compact).utf8ByteSize ≤
      longestBody) :
    (client.coordinate dispatcher now (.register hostname)).program =
      (dispatcher.registerWorker hostname).program.change
        (overHttp fun worker => .ok { worker with hostname, lastHeartbeat := now }) := by
  have shown : ("api/v1/" ++ "workers/register").toList =
      "api".toList ++ ["v1".toList, "workers".toList, "register".toList].flatMap ('/' :: ·) := by
    decide +kernel
  have handled (url : Url) :
      (serve dispatcher (Client.requestOf (Inquiry.register hostname now) url)
        .workerRegistration .post).run.change eitherWay =
        (dispatcher.registerWorker hostname).program.change (responseTo fun worker =>
          .json 201 (.ofFields
            [("id", .string worker.id.text), ("status", .string worker.status.text)])) := by
    have read := read_carried rfl url short (carries_oneText "RegisterRequest" "hostname" hostname)
      (by decide)
    change (registerWorker _ _).run.change eitherWay = _
    rw [registerWorker, check_passes read]
    exact ask_return fun worker => rfl
  have taken (worker : Worker) : (Inquiry.register hostname now).take (.json 201
      (.ofFields [("id", .string worker.id.text), ("status", .string worker.status.text)])) =
        .ok { worker with hostname, lastHeartbeat := now } := by
    have read := readBody_carried (carries_idStatus worker.id worker.status.text) (by decide) 201
    have known : WorkerStatus.ofText? worker.status.text = some worker.status := by
      cases worker.status <;> decide
    refine ((Inquiry.register hostname now).take_success rfl).trans ?_
    change (Inquiry.readBody Inquiry.idStatus
      (.json 201 (Inquiry.idStatus.encode (worker.id, worker.status.text))) >>= _) = _
    rw [read]
    change Except.ok _ = _
    rw [known]
    rfl
  refine (Client.ask_posted (Inquiry.register hostname now) rooted web shown (by decide +kernel)
    .workerRegistration ?_ rfl rfl handled).trans ?_
  · intro path split
    rw [Resource.ofPath?, split]
    rfl
  · simp only [taken]

/-- A heartbeat over HTTP is a heartbeat. -/
theorem coordinate_heartbeat {worker : ResourceId}
    (short : ((Inquiry.heartbeat worker).body.elim "" Json.compact).utf8ByteSize ≤ longestBody) :
    (client.coordinate dispatcher now (.heartbeat worker)).program =
      (dispatcher.heartbeat worker).program.change (overHttp fun _ => .ok ()) := by
  have shown : ("api/v1/" ++ "workers/heartbeat").toList =
      "api".toList ++ ["v1".toList, "workers".toList, "heartbeat".toList].flatMap ('/' :: ·) := by
    decide +kernel
  have handled (url : Url) : (serve dispatcher (Client.requestOf (Inquiry.heartbeat worker) url)
      .workerHeartbeat .post).run.change eitherWay =
        (dispatcher.heartbeat worker).program.change (responseTo fun record => .json 200
          (.ofFields [("status", .string record.status.text)])) := by
    have read := read_carried rfl url short (carries_oneText "HeartbeatRequest" "id" worker.text)
      (by decide)
    change (heartbeat _ _).run.change eitherWay = _
    rw [heartbeat, check_passes read, check_passes (parseId_text "worker" worker)]
    exact ask_return fun record => rfl
  refine Client.ask_posted (Inquiry.heartbeat worker) rooted web shown (by decide +kernel)
    .workerHeartbeat ?_ rfl rfl handled
  intro path split
  rw [Resource.ofPath?, split]
  rfl

/-- A claim over HTTP is a claim, and the response is read as far as the payload allows. -/
theorem coordinate_claimNext {worker : ResourceId}
    (short : ((Inquiry.claimNext worker).body.elim "" Json.compact).utf8ByteSize ≤ longestBody) :
    (client.coordinate dispatcher now (.claimNext worker)).program =
      (dispatcher.claimNext worker).program.change (overHttp fun
        | some job => (Inquiry.readBody ClaimedJob.format
          (.json 200 (ClaimedJob.format.encode job))).map some
        | none => .ok none) := by
  have shown : ("api/v1/" ++ "jobs/next").toList =
      "api".toList ++ ["v1".toList, "jobs".toList, "next".toList].flatMap ('/' :: ·) := by
    decide +kernel
  let answered : Option ClaimedJob → Response
    | some job => .json 200 (ClaimedJob.format.encode job)
    | none => .bare 204
  have handled (url : Url) : (serve dispatcher (Client.requestOf (Inquiry.claimNext worker) url)
      .nextJob .post).run.change eitherWay =
        (dispatcher.claimNext worker).program.change (responseTo answered) := by
    have read := read_carried rfl url short (carries_oneText "ClaimRequest" "worker_id" worker.text)
      (by decide)
    change (claimNext _ _).run.change eitherWay = _
    rw [claimNext, check_passes read, check_passes (parseId_text "worker" worker)]
    refine ask_return fun handed => ?_
    cases handed <;> rfl
  have taken (job : ClaimedJob) :
      (Inquiry.claimNext worker).take (.json 200 (ClaimedJob.format.encode job)) =
        (Inquiry.readBody ClaimedJob.format
          (.json 200 (ClaimedJob.format.encode job))).map some := by
    have content : (Response.json 200 (ClaimedJob.format.encode job)).status ≠ 204 := by
      simp [Response.json]
    have read (response : Response) : (Inquiry.claimNext worker).read response =
        if response.status = 204 then .ok none
        else (Inquiry.readBody ClaimedJob.format response).map some := rfl
    rw [Inquiry.take_success _ rfl, read, if_neg content]
  refine (Client.ask_posted (Inquiry.claimNext worker) rooted web shown (by decide +kernel)
    .nextJob ?_ rfl rfl handled).trans ?_
  · intro path split
    rw [Resource.ofPath?, split]
    rfl
  · refine congrArg (Program.change _) (congrArg overHttp (funext fun handed => ?_))
    cases handed with
    | none => exact (Inquiry.claimNext worker).take_success rfl
    | some job => exact taken job

/-- A report over HTTP is a report, where a blank text of a failure gives way. -/
theorem coordinate_reportOutcome {job worker : ResourceId} {outcome : JobOutcome}
    (short : ((Inquiry.reportOutcome job worker outcome).body.elim "" Json.compact).utf8ByteSize ≤
      longestBody) :
    (client.coordinate dispatcher now (.reportOutcome job worker outcome)).program =
      (dispatcher.reportOutcome job outcome.named (some worker)).program.change (overHttp .ok) := by
  obtain ⟨fields, body, given, portable, decoded, named, told⟩ := read_report job worker outcome
  have shown : ("api/v1/" ++ ("jobs/" ++ job.text ++ "/report")).toList = "api".toList ++
      ["v1".toList, "jobs".toList, job.text.toList, "report".toList].flatMap ('/' :: ·) := by
    simp [String.toList_append]
  have literal : ∀ segment ∈ ["api".toList, "v1".toList, "jobs".toList, job.text.toList,
      "report".toList], Url.IsLiteralSegment segment := by
    simp only [List.forall_mem_cons]
    exact ⟨by decide +kernel, by decide +kernel, by decide +kernel, job.isLiteralSegment,
      by decide +kernel, nofun⟩
  have handled (url : Url) :
      (serve dispatcher (Client.requestOf (Inquiry.reportOutcome job worker outcome) url)
        (.jobReport job.text.toList) .post).run.change eitherWay =
        (dispatcher.reportOutcome job outcome.named (some worker)).program.change
          (responseTo fun report => .json 200 (reportJson report)) := by
    have path : pathId job.text.toList = .ok job.text := by
      rw [pathId, job.isLiteralSegment.segmentText?, String.ofList_toList]
    rw [given] at short
    have read := read_requestOf given url short portable decoded
    have held : (body.workerId.mapM (parseId "worker") : Except Response (Option ResourceId)) =
        .ok (some worker) := by
      rw [named, Option.mapM_some, parseId_text]
      rfl
    change (reportOutcome _ _ _).run.change eitherWay = _
    rw [reportOutcome, check_passes path, check_passes read, check_passes (parseId_text "job" job),
      check_passes held, check_passes told]
    exact ask_return fun report => rfl
  have taken (report : OutcomeReport) : (Inquiry.reportOutcome job worker outcome).take
      (.json 200 (reportJson report)) = .ok report := by
    have written : reportJson report = Inquiry.acceptedReport.encode report := rfl
    have read (response : Response) : (Inquiry.reportOutcome job worker outcome).read response =
        Inquiry.readBody Inquiry.acceptedReport response := rfl
    rw [Inquiry.take_success _ rfl, read, written,
      readBody_carried (carries_acceptedReport report) (by decide)]
  refine (Client.ask_posted (Inquiry.reportOutcome job worker outcome) rooted web shown literal
    (.jobReport job.text.toList) ?_ rfl rfl handled).trans ?_
  · intro path split
    rw [Resource.ofPath?, split]
    rfl
  · simp only [taken]

end

end Http

end JobDispatch
