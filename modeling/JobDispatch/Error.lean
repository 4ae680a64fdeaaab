import JobDispatch.Text.Integer

/-!
# Errors

An operation fails for one of eight reasons. A worker takes three of them for passing conditions
and tries again. The store has errors of its own, which become these when they leave it; a database
error and a failed migration are both failures to persist.
-/

namespace JobDispatch

/-- The reasons for which an operation fails. -/
inductive Error.Kind
  /-- A submission is malformed, and nothing has been written. -/
  | validation
  /-- There is no such record. -/
  | notFound
  /-- The state of the record does not allow the change. -/
  | conflict
  /-- The store cannot be reached or could not write. -/
  | persistence
  /-- A limit passed before the answer came. -/
  | timeout
  /-- The wake queue or the orchestrator cannot be reached. -/
  | unavailable
  /-- A job failed. -/
  | executionFailed
  /-- Something else went wrong. -/
  | internal
deriving DecidableEq, Repr

/-- A failed operation. -/
structure Error where
  /-- The reason. -/
  kind : Error.Kind
  /-- What failed. -/
  detail : String
deriving DecidableEq, Repr

namespace Error

/-- The wording in front of the detail. -/
def Kind.label : Kind → String
  | .validation => "invalid input"
  | .notFound => "not found"
  | .conflict => "conflict"
  | .persistence => "persistence error"
  | .timeout => "timeout"
  | .unavailable => "unavailable"
  | .executionFailed => "execution failed"
  | .internal => "internal error"

/-- The wording of an error. -/
def message (error : Error) : String := error.kind.label ++ ": " ++ error.detail

/-- The error is a passing condition, after which a worker tries again. -/
def isTransient (error : Error) : Bool :=
  match error.kind with
  | .persistence | .timeout | .unavailable => true
  | _ => false

end Error

/-- The reasons for which a store operation fails. -/
inductive StoreError.Kind
  /-- There is no such record. -/
  | notFound
  /-- The state of the record does not allow the change. -/
  | conflict
  /-- A submission is malformed. -/
  | validation
  /-- A stored value has no meaning. -/
  | invalidData
  /-- The database failed. -/
  | database
  /-- The schema could not be brought up to date. -/
  | migration
deriving DecidableEq, Repr

/-- A failed store operation. -/
structure StoreError where
  /-- The reason. -/
  kind : StoreError.Kind
  /-- What failed. -/
  detail : String
deriving DecidableEq, Repr

namespace StoreError

/-- The wording in front of the detail. -/
def Kind.label : Kind → String
  | .notFound => "not found"
  | .conflict => "conflict"
  | .validation => "invalid input"
  | .invalidData => "invalid data"
  | .database => "database error"
  | .migration => "migration error"

/-- The wording of a store error. -/
def message (error : StoreError) : String := error.kind.label ++ ": " ++ error.detail

/-- No connection became free in time, as when the database is down. -/
def poolTimedOut : StoreError :=
  ⟨.database, "pool timed out while waiting for an open connection"⟩

/-- A query that needs a row found none. -/
def rowNotFound : StoreError :=
  ⟨.database, "no rows returned by a query that expected to return at least one row"⟩

/-- The database answered with data that it should not have sent. -/
def protocol (detail : String) : StoreError :=
  ⟨.database, "encountered unexpected or invalid data: " ++ detail⟩

/-- A migration of the schema that was applied is not known. -/
def versionMissing (version : Int) : StoreError :=
  ⟨.migration, "migration " ++ toString version ++
    " was previously applied but is missing in the resolved migrations"⟩

/-- A store error as it leaves the store. -/
def toError (error : StoreError) : Error :=
  match error.kind with
  | .notFound => ⟨.notFound, error.detail⟩
  | .conflict => ⟨.conflict, error.detail⟩
  | .validation => ⟨.validation, error.detail⟩
  | .invalidData => ⟨.internal, error.detail⟩
  | .database | .migration => ⟨.persistence, error.detail⟩

/-- An error inside a store operation. Those that a store does not have are invalid data. -/
def ofError (error : Error) : StoreError :=
  match error.kind with
  | .notFound => ⟨.notFound, error.detail⟩
  | .conflict => ⟨.conflict, error.detail⟩
  | .validation => ⟨.validation, error.detail⟩
  | _ => ⟨.invalidData, error.message⟩

end StoreError

/-- Why an operation has no answer: an error, or a time beyond the calendar, at which the program
stops. -/
inductive Fault (ε : Type)
  | error (cause : ε)
  | calendarEnd
deriving DecidableEq, Repr

namespace Fault

/-- The same fault with its error changed. -/
def map {ε φ : Type} (change : ε → φ) : Fault ε → Fault φ
  | .error cause => .error (change cause)
  | .calendarEnd => .calendarEnd

end Fault

end JobDispatch
