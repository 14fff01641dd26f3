import ThermalPrint.Fault
import ThermalPrint.Json.Basic

/-
Records of jobs: the status of a job and what is known of it, for whoever asks.
-/

namespace ThermalPrint

abbrev JobId := Text

inductive JobStatus
  | queued
  | running
  | success
  | error
deriving DecidableEq, Repr

namespace JobStatus

def word : JobStatus → String
  | queued => "queued"
  | running => "running"
  | success => "success"
  | error => "error"

/-- Nothing more will happen to a job of this status. -/
def isFinal : JobStatus → Bool
  | success | error => true
  | _ => false

end JobStatus

/-- How a job ends: with the state of the connection that it has changed, with a count
of bytes, or with an error and its kind. -/
inductive JobOutcome
  | state (word : Text)
  | written (count : Nat)
  | failed (message kind : Text)
deriving DecidableEq, Repr

namespace JobOutcome

/-- The kind of every fault that is no error of printing. -/
def internalKind : Text := "internal_error"

def ofFault (f : Fault) : JobOutcome :=
  .failed f.message (if f.isPrintError then f.word else internalKind)

def unknownType : JobOutcome := .failed "unknown job type" "unknown_job_type"

/-- How a job ends that came to a result.  A fault ends the job and nothing else. -/
def ofResult : Except Fault JobOutcome → JobOutcome
  | .ok outcome => outcome
  | .error f => ofFault f

def status : JobOutcome → JobStatus
  | failed .. => .error
  | _ => .success

def members (o : JobOutcome) : List (Text × Json) :=
  ("status", .str o.status.word) ::
    match o with
    | state word => [("state", .str word)]
    | written count => [("bytes_written", .int count)]
    | failed message kind => [("error", .str message), ("error_kind", .str kind)]

end JobOutcome

/-- The members of a record, each name once. -/
abbrev JobRecord := List (Text × Json)

namespace JobRecord

/-- A record with members added, or put in the place of those of their names. -/
def update (record : JobRecord) (changes : List (Text × Json)) : JobRecord :=
  changes.foldl (fun r change => Json.put change.1 change.2 r) record

/-- The record of a job that waits, made at a moment.  What is known of the job goes
before all else. -/
def new (id : JobId) (type : Json) (now : Text) (known : List (Text × Json)) : JobRecord :=
  update [("id", .str id), ("type", type), ("status", .str JobStatus.queued.word),
    ("created_at", .str now), ("updated_at", .str now)] known

def revise (record : JobRecord) (now : Text) (changes : List (Text × Json)) : JobRecord :=
  update (update record changes) [("updated_at", .str now)]

def shownId (record : JobRecord) : Json := (record.lookup "id".toText).getD .null

def created (record : JobRecord) : Json := (record.lookup "created_at".toText).getD (.str "")

end JobRecord
end ThermalPrint
