import JobDispatch.Json.Printer

/-!
# Listings

What the commands print: tables of jobs and of workers, counts of statuses, and JSON. A cell that
is missing in the answer shows a hyphen.
-/

namespace JobDispatch.Cli

/-- A text filled up with spaces at its end. -/
def padRight (width : Nat) (text : String) : String :=
  text ++ String.ofList (List.replicate (width - text.length) ' ')

/-- A text filled up with spaces at its start. -/
def padLeft (width : Nat) (text : String) : String :=
  String.ofList (List.replicate (width - text.length) ' ') ++ text

/-- The text of a field. -/
def textCell (json : Json) (key : String) : String :=
  match json.field? key with
  | some (.string text) => text
  | _ => "-"

/-- The integer of a field; what has not sixty-four bits with sign counts as zero. -/
def integerCell (json : Json) (key : String) : Int :=
  match json.field? key with
  | some (.whole number) => if number.value < 0x8000000000000000 then number.value else 0
  | _ => 0

/-- The items of a field. -/
def items (json : Json) (key : String) : List Json :=
  match json.field? key with
  | some (.array items) => items
  | _ => []

/-- Lines with their ends. -/
def lines (texts : List String) : String := String.join (texts.map (· ++ "\n"))

/-- A line about a job. -/
def jobLine (id jobType status retries created : String) : String :=
  padRight 38 id ++ " " ++ padRight 16 jobType ++ " " ++ padRight 8 status ++ " " ++
    padLeft 7 retries ++ " " ++ created

/-- The table of jobs in an answer. -/
def jobTable (answer : Json) : String :=
  let jobs := items answer "jobs"
  if jobs.isEmpty then lines ["No jobs"]
  else lines (jobLine "ID" "TYPE" "STATUS" "RETRIES" "CREATED" :: jobs.map fun job =>
    jobLine (textCell job "id") (textCell job "type") (textCell job "status")
      (toString (integerCell job "retry_count")) (textCell job "created_at"))

/-- A line about a worker. -/
def workerLine (id hostname status lastHeartbeat : String) : String :=
  padRight 38 id ++ " " ++ padRight 24 hostname ++ " " ++ padRight 8 status ++ " " ++ lastHeartbeat

/-- The table of workers in an answer. -/
def workerTable (answer : Json) : String :=
  let workers := items answer "workers"
  if workers.isEmpty then lines ["No workers registered"]
  else lines (workerLine "ID" "HOSTNAME" "STATUS" "LAST HEARTBEAT" :: workers.map fun worker =>
    workerLine (textCell worker "id") (textCell worker "hostname") (textCell worker "status")
      (textCell worker "last_heartbeat"))

/-- The counts in an answer. -/
def countTable (answer : Json) : String :=
  match answer.field? "counts" with
  | some (.object counts) =>
    lines (counts.map fun (status, count) => padRight 10 status ++ " " ++ count.compact)
  | _ => ""

end JobDispatch.Cli
