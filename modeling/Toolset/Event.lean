import Toolset.Instant.Reader

/-!
# Events of a run

A run tells what it does by events: a step started or completed, the run ended
or failed, a workspace was left behind.  Each event names the source of the run
and carries details by name.
-/

namespace Toolset

/-- What an event tells. -/
inductive EventKind where
  | stepStarted
  | stepCompleted
  | error
  | completion
  | cleanupWarning
  deriving DecidableEq, Repr, Inhabited

namespace EventKind

def name : EventKind → String
  | .stepStarted => "step_started"
  | .stepCompleted => "step_completed"
  | .error => "error"
  | .completion => "completion"
  | .cleanupWarning => "cleanup_warning"

def all : List EventKind := [.stepStarted, .stepCompleted, .error, .completion, .cleanupWarning]

/-- The kind of a name. -/
def ofName? (name : String) : Option EventKind := all.find? (·.name == name)

/-- The level at which an event of the kind is logged. -/
def level : EventKind → Log.Level
  | .error => .error
  | .cleanupWarning => .warning
  | _ => .info

end EventKind

/-- Something that happened in a run. -/
structure Event where
  kind : EventKind
  source : String
  /-- When it happened. -/
  moment : Instant
  details : List Field := []
  /-- The place of the event among all events of a session. -/
  number : Nat := 0
  deriving BEq

namespace Event

/-- The fields under which an event is logged. A detail wins over a field of
the event itself. -/
def logFields (event : Event) : List Field :=
  override
    [("event_type", .text event.kind.name), ("source_url", .text event.source),
     ("timestamp", .text event.moment.text)]
    event.details

def detail? (event : Event) (name : String) : Option Value := field? event.details name

/-- The kind of an event, by its name. -/
def checkKind : Value → Checked EventKind
  | .text s =>
      match EventKind.ofName? s with
      | some kind => .ok kind
      | none => Checked.reject .eventKindUnknown
  | _ => Checked.reject .eventKindUnknown

/-- Details by name. -/
def checkDetails : Value → Checked (List Field)
  | .record fields => .ok fields
  | _ => Checked.reject .recordExpected

/-- Check all fields of an event that is told at a given moment. -/
def ofFields (now : Instant) (fields : List Field) : Checked Event :=
  (((Checked.also (.ok fun kind source moment details => { kind, source, moment, details })
    (Checked.field fields "event_type" none checkKind)).also
    (Checked.field fields "source_url" none checkSomeText)).also
    (Checked.field fields "timestamp" (some now) Instant.check)).also
    (Checked.field fields "details" (some []) checkDetails)

end Event

end Toolset
