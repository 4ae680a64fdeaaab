import JobDispatch.Text.Integer

/-!
# Command lines

The options of a command stand before the subcommand that they belong to, each once: long ones with
their value after an equals sign or as the next argument, the short one also with its value joined
to it. A value that stands alone does not begin with a hyphen, and after two hyphens nothing is an
option. Some options that are left out take the value of a variable of the environment.
-/

namespace JobDispatch.Cli

/-- What a command line asks for. -/
inductive Command
  | worker (hostname : Option String) (timeUnit : UInt64)
  | submit (jobType payload : String) (maxRetries timeout : Option Int32)
  | listJobs (limit offset : UInt32)
  | showJob (id : String)
  | jobStats
  | listWorkers
deriving DecidableEq, Repr

/-- A command line that has been read. -/
structure Invocation where
  /-- The URL of the orchestrator, if it is given. -/
  apiUrl : Option String
  /-- The configuration file, if it is given. -/
  config : Option String
  /-- The command. -/
  command : Command
deriving DecidableEq, Repr

/-- Why a command line is not carried out. -/
inductive Refusal
  /-- It asks how the program is used. -/
  | help
  /-- It is no command line of the program. -/
  | usage
deriving DecidableEq, Repr

/-- An option that has a value. -/
structure OptionName where
  /-- Its name after two hyphens. -/
  long : String
  /-- Its letter after one hyphen. -/
  short : Option Char

/-- An option without a letter. -/
def OptionName.ofLong (name : String) : OptionName := ⟨name, none⟩

/-- What a level of the command line may hold. -/
structure Level where
  /-- Its options. -/
  options : List OptionName
  /-- Its subcommands. -/
  subcommands : List String
  /-- The number of other arguments. -/
  operands : Nat

/-- What a level of the command line holds. -/
structure Found where
  /-- The options by their long names, with their values. -/
  values : List (String × String)
  /-- The other arguments. -/
  operands : List String

namespace Found

/-- Nothing. -/
def empty : Found := ⟨[], []⟩

/-- The value of an option. -/
def value? (found : Found) (name : String) : Option String :=
  (found.values.find? fun entry => entry.1 = name).map (·.2)

/-- Adds an option, which may stand only once. -/
def withValue (found : Found) (name value : String) : Except Refusal Found :=
  if (found.value? name).isSome then .error .usage
  else .ok { found with values := (name, value) :: found.values }

/-- Adds an argument that is no option, as long as the level takes one. -/
def withOperand (found : Found) (level : Level) (operand : String) : Except Refusal Found :=
  if found.operands.length < level.operands then
    .ok { found with operands := found.operands ++ [operand] }
  else .error .usage

end Found

/-- An argument as it counts before two hyphens. -/
inductive Word
  /-- Two hyphens. -/
  | separator
  /-- A request for help. -/
  | help
  /-- An option, perhaps with its value. -/
  | option (name : String) (value : Option String)
  /-- Something else. -/
  | operand (text : String)

/-- The text and what follows an equals sign. -/
def splitValue (chars : List Char) : String × Option String :=
  let name := chars.takeWhile (· ≠ '=')
  (String.ofList name, if name.length < chars.length then
    some (String.ofList (chars.drop (name.length + 1))) else none)

/-- Reads an argument. -/
def Level.word (level : Level) (argument : String) : Except Refusal Word :=
  match argument.toList with
  | ['-', '-'] => .ok .separator
  | '-' :: '-' :: rest =>
    let (name, value) := splitValue rest
    if name = "help" ∧ value.isNone then .ok .help
    else if level.options.any (·.long = name) then .ok (.option name value)
    else .error .usage
  | '-' :: 'h' :: _ => .ok .help
  | '-' :: letter :: rest =>
    match level.options.find? (·.short = some letter) with
    | none => .error .usage
    | some option =>
      let joined := if rest.head? = some '=' then rest.drop 1 else rest
      .ok (.option option.long (if rest.isEmpty then none else some (String.ofList joined)))
  | _ => .ok (.operand argument)

/-- An argument that stands alone can be the value of an option. -/
def isValue (argument : String) : Bool :=
  match argument.toList with
  | '-' :: _ :: _ => false
  | _ => true

/-- Reads the arguments of a level, up to a subcommand. `escaped` says that two hyphens have been
seen. -/
def Level.scan (level : Level) : Bool → Found → List String →
    Except Refusal (Found × Option (String × List String))
  | _, found, [] => .ok (found, none)
  | true, found, argument :: rest => do
    level.scan true (← found.withOperand level argument) rest
  | false, found, argument :: rest =>
    if level.subcommands.contains argument then .ok (found, some (argument, rest))
    else if argument = "help" ∧ ¬ level.subcommands.isEmpty then .error .help
    else
      match level.word argument with
      | .error refusal => .error refusal
      | .ok .separator => level.scan true found rest
      | .ok .help => .error .help
      | .ok (.operand text) =>
        match found.withOperand level text with
        | .ok found => level.scan false found rest
        | .error refusal => .error refusal
      | .ok (.option name (some value)) =>
        match found.withValue name value with
        | .ok found => level.scan false found rest
        | .error refusal => .error refusal
      | .ok (.option name none) =>
        match rest with
        | value :: rest =>
          if isValue value then
            match found.withValue name value with
            | .ok found => level.scan false found rest
            | .error refusal => .error refusal
          else .error .usage
        | [] => .error .usage

/-- Reads a level that ends in a subcommand. -/
def Level.choose (level : Level) (arguments : List String) :
    Except Refusal (Found × String × List String) := do
  match ← level.scan false .empty arguments with
  | (found, some (name, rest)) => return (found, name, rest)
  | (_, none) => throw .usage

/-- Reads the last level. -/
def Level.last (level : Level) (arguments : List String) : Except Refusal Found := do
  return (← level.scan false .empty arguments).1

/-- Reads an integer in a range. -/
def readWithin (low high : Int) (text : String) : Except Refusal Int :=
  match (Text.readInt? text).filter fun value => low ≤ value ∧ value ≤ high with
  | some value => .ok value
  | none => .error .usage

/-- Reads an integer of thirty-two bits with sign. -/
def readInt32 (text : String) : Except Refusal Int32 :=
  (readWithin (-0x80000000) 0x7FFFFFFF text).map Int32.ofInt

/-- Reads an integer of thirty-two bits without sign. -/
def readUInt32 (text : String) : Except Refusal UInt32 :=
  (readWithin 0 0xFFFFFFFF text).map fun value => .ofNat value.toNat

/-- Reads an integer of sixty-four bits without sign, which has no minus sign. -/
def readUInt64 (text : String) : Except Refusal UInt64 :=
  match (Text.readUnsigned? text).filter (· < UInt64.size) with
  | some value => .ok (.ofNat value)
  | none => .error .usage

/-- The first level. -/
def rootLevel : Level :=
  ⟨[.ofLong "api-url", ⟨"config", some 'c'⟩], ["worker", "jobs", "workers"], 0⟩

/-- The commands about jobs. -/
def jobsLevel : Level := ⟨[], ["submit", "list", "show", "stats"], 0⟩

/-- The commands about workers. -/
def workersLevel : Level := ⟨[], ["list"], 0⟩

/-- Reads a value that is given. -/
def readGiven {α : Type} (read : String → Except Refusal α) :
    Option String → Except Refusal (Option α)
  | none => .ok none
  | some text => (read text).map some

/-- Reads the command to run a worker. -/
def readWorker (lookup : String → Option String) (arguments : List String) :
    Except Refusal Command := do
  let found ← (Level.mk [.ofLong "hostname", .ofLong "time-unit-ms"] [] 0).last arguments
  let unit ← readGiven readUInt64 (found.value? "time-unit-ms")
  return .worker (found.value? "hostname" <|> lookup "HOSTNAME") (unit.getD 1000)

/-- Reads a command about jobs. -/
def readJobs (arguments : List String) : Except Refusal Command := do
  let (_, name, rest) ← jobsLevel.choose arguments
  match name with
  | "submit" =>
    let options := [.ofLong "payload", .ofLong "max-retries", .ofLong "timeout"]
    let found ← (Level.mk options [] 1).last rest
    let maxRetries ← readGiven readInt32 (found.value? "max-retries")
    let timeout ← readGiven readInt32 (found.value? "timeout")
    match found.operands with
    | [jobType] =>
      return .submit jobType ((found.value? "payload").getD "\x7b\x7d") maxRetries timeout
    | _ => throw .usage
  | "list" =>
    let found ← (Level.mk [.ofLong "limit", .ofLong "offset"] [] 0).last rest
    let limit ← readGiven readUInt32 (found.value? "limit")
    let offset ← readGiven readUInt32 (found.value? "offset")
    return .listJobs (limit.getD 20) (offset.getD 0)
  | "show" =>
    let found ← (Level.mk [] [] 1).last rest
    match found.operands with
    | [id] => return .showJob id
    | _ => throw .usage
  | _ =>
    discard ((Level.mk [] [] 0).last rest)
    return .jobStats

/-- Reads a command about workers. -/
def readWorkers (arguments : List String) : Except Refusal Command := do
  let (_, _, rest) ← workersLevel.choose arguments
  discard ((Level.mk [] [] 0).last rest)
  return .listWorkers

/-- Reads a command line; `lookup` gives the variables of the environment. -/
def Invocation.read (lookup : String → Option String) (arguments : List String) :
    Except Refusal Invocation := do
  let (found, name, rest) ← rootLevel.choose arguments
  let command ← match name with
    | "worker" => readWorker lookup rest
    | "jobs" => readJobs rest
    | _ => readWorkers rest
  let config := found.value? "config" <|> lookup "JOBRELAY_CONFIG"
  if config = some "" then throw .usage
  return ⟨found.value? "api-url" <|> lookup "JOBRELAY_API_URL", config, command⟩

end JobDispatch.Cli
