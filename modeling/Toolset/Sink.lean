import Toolset.World

/-!
# Sinks for events

Events are told to sinks: the log, the metrics, a record of events, or several of
them one after another.  A sink that fails does not keep the others from hearing
the event, and does not end the run; only a cancellation goes through.
-/

namespace Toolset

/-- What a sink of one's own does with an event. -/
inductive Reaction where
  | takes
  | fails (trouble : Log.Trouble)
  | cancels

/-- A sink for events. -/
inductive Sink where
  /-- Takes no notice. -/
  | silent
  /-- Logs each event, to a logger of its own if one is named. -/
  | logger (name : Option String)
  /-- Counts each event. -/
  | counter
  /-- A sink of one's own, which may record the events that it takes. -/
  | custom (label : String) (records : Bool) (reaction : Event → Reaction)
  /-- Several sinks, told one after another. -/
  | several (children : List Sink)

namespace Sink

/-- The logger of sinks. -/
def eventsLogger : String := "src.provisioning.events.emitter"

def metricsLogger : String := "src.provisioning.events.metrics"

/-- How a sink is called in the log. -/
def label : Sink → String
  | .silent => "NullEventEmitter"
  | .logger _ => "LoggingEventEmitter"
  | .counter => "MetricsEventEmitter"
  | .custom label _ _ => label
  | .several _ => "CompositeEventEmitter"

/-- Log an event. Its details may not take the names of attributes. -/
def logEvent (logger : String) (event : Event) : Act Unit := do
  if event.kind.level.passes (← read).threshold then
    match Log.clash? event.logFields with
    | some name => throw (.raised (Log.clashTrouble name))
    | none => Act.log {
        level := event.kind.level
        logger
        message := "Provision event: " ++ event.kind.name ++ " for " ++ event.source
        fields := event.logFields }

/-- Count an event. A duration that is no number is logged and left out. -/
def countEvent (event : Event) : Act Unit := do
  let (metrics, problem) := (← get).metrics.count event
  modify fun world => { world with metrics }
  match problem with
  | none => return
  | some problem => Act.log {
      level := .error
      logger := metricsLogger
      message := "Failed to update metrics for event " ++ event.kind.name ++ ": " ++
        problem.message }

def record (event : Event) : Act Unit :=
  modify fun world => { world with heard := world.heard ++ [event] }

/-- What is logged when a sink failed among several. -/
def failureRecord (label : String) (event : Event) (ending : Ending) : Log.Record where
  level := .error
  logger := eventsLogger
  message := "Event emitter " ++ label ++ " failed"
  fields := [("event_type", .text event.kind.name)]
  trouble := some ending.trouble

/-- Go on after a sink among several: a failure is logged, a cancellation goes
through. -/
def settle (label : String) (event : Event) : Except Ending Unit → Act Unit
  | .ok () => pure ()
  | .error ending =>
      if ending.isCancellation then throw ending
      else Act.log (failureRecord label event ending)

mutual

def tell (event : Event) : Sink → Act Unit
  | .silent => pure ()
  | .logger name => logEvent (name.getD eventsLogger) event
  | .counter => countEvent event
  | .custom _ records reaction =>
      match reaction event with
      | .takes => if records then record event else pure ()
      | .fails trouble => throw (.raised trouble)
      | .cancels => throw (.cancelled .request)
  | .several children => tellAll event children

/-- Tell several sinks, one after another. -/
def tellAll (event : Event) : List Sink → Act Unit
  | [] => pure ()
  | sink :: rest => do
      settle sink.label event (← Act.outcome (tell event sink))
      tellAll event rest

end

/-- Add a sink to several; no other sink can be added to. -/
def add (sink : Sink) : Sink → Option Sink
  | .several children => some (.several (children ++ [sink]))
  | _ => none

end Sink

end Toolset
