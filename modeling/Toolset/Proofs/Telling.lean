import Toolset.Proofs.History
import Toolset.Run

/-!
# Telling of events

Whatever a sink does with an event, it starts nothing, kills nothing and leaves
the tree as it is.  A sink that fails is passed over; only one that calls the
work off ends it.  Which events make a sink do so can be read off the sink.
-/

namespace Toolset

/-- What an event says, whenever it is told. -/
structure Saying where
  kind : EventKind
  source : String
  details : List Field

def Event.saying (event : Event) : Saying := ⟨event.kind, event.source, event.details⟩

namespace Sink

mutual

/-- The sink calls the work off when it is told of an event. -/
def cancels (event : Event) : Sink → Bool
  | .custom _ _ reaction =>
      match reaction event with
      | .cancels => true
      | _ => false
  | .several children => anyCancels event children
  | _ => false

/-- One of several sinks calls the work off. -/
def anyCancels (event : Event) : List Sink → Bool
  | [] => false
  | sink :: rest => cancels event sink || anyCancels event rest

end

/-- The sink calls nothing off, whatever it is told. -/
def IsQuiet (sink : Sink) : Prop := ∀ event, sink.cancels event = false

theorem isQuiet_silent : silent.IsQuiet := fun _ => rfl

theorem isQuiet_logger (name : Option String) : (logger name).IsQuiet := fun _ => rfl

theorem isQuiet_counter : counter.IsQuiet := fun _ => rfl

/-- A sink of one's own calls nothing off if it takes each event or fails on it. -/
theorem isQuiet_custom_iff {label : String} {records : Bool} {reaction : Event → Reaction} :
    (custom label records reaction).IsQuiet ↔ ∀ event, reaction event ≠ .cancels := by
  apply forall_congr'
  intro event
  rw [cancels]
  cases reaction event <;> simp

theorem anyCancels_eq (event : Event) (sinks : List Sink) :
    anyCancels event sinks = sinks.any (cancels event) := by
  induction sinks with
  | nil => rfl
  | cons sink rest ih => rw [anyCancels, ih, List.any_cons]

theorem isQuiet_several_iff {children : List Sink} :
    (several children).IsQuiet ↔ ∀ child ∈ children, child.IsQuiet := by
  simp only [IsQuiet, cancels, anyCancels_eq, List.any_eq_false, Bool.not_eq_true]
  exact ⟨fun quiet child member event => quiet event child member,
    fun quiet event child member => quiet child member event⟩

/-- How telling a sink ends: it is called off if the sink does that, and only
then. -/
def Settles (cancelled : Bool) (outcome : Except Ending Unit) : Prop :=
  match cancelled with
  | true => outcome = .error (.cancelled .request)
  | false => ∀ ending, outcome = .error ending → ending.isCancellation = false

theorem settles_ok : Settles false (.ok ()) := by
  intro ending equal
  cases equal

/-- A record in the log, or none, is all that a sink of the log leaves. -/
theorem logEvent_leads {logger : String} {event : Event} {host : Host} {before after : World}
    {outcome : Except Ending Unit}
    (ran : (logEvent logger event).Leads host before outcome after) :
    SameDeeds before after ∧ after.told = before.told ∧ Settles false outcome := by
  rw [logEvent] at ran
  rw [Act.leads_read_bind] at ran
  split at ran
  · split at ran
    · rcases Act.leads_throw.1 ran with ⟨rfl, rfl⟩
      refine ⟨.refl _, rfl, ?_⟩
      intro ending equal
      cases equal
      rfl
    · rcases Act.leads_log.1 ran with ⟨rfl, rfl⟩
      exact ⟨.logged _ _ _, by simp, settles_ok⟩
  · rcases Act.leads_pure.1 ran with ⟨rfl, rfl⟩
    exact ⟨.refl _, rfl, settles_ok⟩

theorem countEvent_leads {event : Event} {host : Host} {before after : World}
    {outcome : Except Ending Unit} (ran : (countEvent event).Leads host before outcome after) :
    SameDeeds before after ∧ after.told = before.told ∧ Settles false outcome := by
  rw [countEvent] at ran
  rw [Act.leads_get_bind] at ran
  generalize before.metrics.count event = counted at ran
  rcases counted with ⟨metrics, problem⟩
  rw [Act.leads_modify_bind] at ran
  have same : SameDeeds before { before with metrics } :=
    ⟨rfl, rfl, rfl, rfl, rfl, List.prefix_rfl⟩
  cases problem with
  | none =>
      rcases Act.leads_pure.1 ran with ⟨rfl, rfl⟩
      exact ⟨same, rfl, settles_ok⟩
  | some problem =>
      rcases Act.leads_log.1 ran with ⟨rfl, rfl⟩
      exact ⟨same.trans (.logged _ _ _), by simp, settles_ok⟩

mutual

/-- What telling a sink does: nothing but telling. -/
theorem tell_leads {event : Event} {host : Host} {before after : World}
    {outcome : Except Ending Unit} :
    (sink : Sink) → (tell event sink).Leads host before outcome after →
    SameDeeds before after ∧ after.told = before.told ∧ Settles (sink.cancels event) outcome
  | .silent, ran => by
      rcases Act.leads_pure.1 ran with ⟨rfl, rfl⟩
      exact ⟨.refl _, rfl, settles_ok⟩
  | .logger name, ran => logEvent_leads ran
  | .counter, ran => countEvent_leads ran
  | .custom label records reaction, ran => by
      rw [tell] at ran
      rw [cancels]
      cases reacts : reaction event with
      | takes =>
          simp only [reacts] at ran ⊢
          split at ran
          · rcases Act.leads_modify.1 ran with ⟨rfl, rfl⟩
            exact ⟨⟨rfl, rfl, rfl, rfl, rfl, List.prefix_rfl⟩, rfl, settles_ok⟩
          · rcases Act.leads_pure.1 ran with ⟨rfl, rfl⟩
            exact ⟨.refl _, rfl, settles_ok⟩
      | fails trouble =>
          simp only [reacts] at ran ⊢
          rcases Act.leads_throw.1 ran with ⟨rfl, rfl⟩
          refine ⟨.refl _, rfl, ?_⟩
          intro ending equal
          cases equal
          rfl
      | cancels =>
          simp only [reacts] at ran ⊢
          rcases Act.leads_throw.1 ran with ⟨rfl, rfl⟩
          exact ⟨.refl _, rfl, rfl⟩
  | .several children, ran => by
      rcases tellAll_leads children ran with ⟨same, told, equal⟩
      refine ⟨same, told, ?_⟩
      rw [cancels]
      cases cancelled : anyCancels event children <;> simp only [cancelled] at equal
      · rw [equal]
        exact settles_ok
      · exact equal

theorem tellAll_leads {event : Event} {host : Host} {before after : World}
    {outcome : Except Ending Unit} :
    (sinks : List Sink) → (tellAll event sinks).Leads host before outcome after →
    SameDeeds before after ∧ after.told = before.told ∧
      outcome = if anyCancels event sinks then .error (.cancelled .request) else .ok ()
  | [], ran => by
      rcases Act.leads_pure.1 ran with ⟨rfl, rfl⟩
      exact ⟨.refl _, rfl, rfl⟩
  | sink :: rest, ran => by
      rw [tellAll] at ran
      rcases Act.leads_outcome_bind.1 ran with ⟨ended, middle, first, ran⟩
      rcases tell_leads sink first with ⟨same, told, settles⟩
      rw [anyCancels]
      cases cancelled : sink.cancels event with
      | true =>
          simp only [cancelled, Settles] at settles
          subst settles
          simp only [settle, Ending.isCancellation, ↓reduceIte, Act.leads_throw_bind] at ran
          rcases ran with ⟨rfl, rfl⟩
          exact ⟨same, told, by simp⟩
      | false =>
          simp only [cancelled, Settles] at settles
          -- the failure of one sink is logged, and the others are told all the same
          have goesOn : ∃ world, (settle sink.label event ended).Leads host middle (.ok ()) world ∧
              SameDeeds middle world ∧ world.told = middle.told := by
            cases ended with
            | ok _ => exact ⟨middle, Act.leads_pure.2 ⟨rfl, rfl⟩, .refl _, rfl⟩
            | error ending =>
                simp only [settle, settles ending rfl, Bool.false_eq_true, ↓reduceIte]
                exact ⟨_, Act.leads_log.2 ⟨rfl, rfl⟩, .logged _ _ _, by simp⟩
          rcases goesOn with ⟨world, settled, quiet, unsaid⟩
          rw [Act.leads_bind_of_ok settled] at ran
          rcases tellAll_leads rest ran with ⟨later, saidLater, equal⟩
          exact ⟨same.trans (quiet.trans later), by rw [saidLater, unsaid, told],
            by simpa using equal⟩

end

end Sink

namespace Provisioner

/-- The event that is told next of a source. -/
def event (host : Host) (world : World) (source : String) (kind : EventKind)
    (details : List Field) : Event where
  kind
  source
  moment := host.moment world.told.length
  details
  number := world.told.length

/-- The world in which an event was told. -/
def withTold (world : World) (event : Event) : World :=
  { world with told := world.told ++ [event] }

theorem sameDeeds_withTold (world : World) (event : Event) :
    SameDeeds world (withTold world event) :=
  ⟨rfl, rfl, rfl, rfl, rfl, List.prefix_rfl⟩

theorem nextEvent_leads (host : Host) (before : World) (source : String) (kind : EventKind)
    (details : List Field) :
    (nextEvent source kind details).Leads host before
      (.ok (event host before source kind details))
      (withTold before (event host before source kind details)) := rfl

/-- What telling of an event adds: the event. A sink that fails does not matter,
one that calls the work off ends it. -/
theorem tell_leads {sink : Sink} {source : String} {kind : EventKind} {details : List Field}
    {host : Host} {before after : World} {outcome : Except Ending Unit}
    (ran : (tell sink source kind details).Leads host before outcome after) :
    SameDeeds before after ∧
      after.told = before.told ++ [event host before source kind details] ∧
      outcome = if sink.cancels (event host before source kind details) then
          .error (.cancelled .request)
        else .ok () := by
  rw [tell] at ran
  rw [Act.leads_bind_of_ok (nextEvent_leads host before source kind details)] at ran
  generalize event host before source kind details = event at ran ⊢
  rcases Act.leads_outcome_bind.1 ran with ⟨ended, middle, told, ran⟩
  rcases Sink.tell_leads sink told with ⟨same, unsaid, settles⟩
  have said : SameDeeds before middle := (sameDeeds_withTold before event).trans same
  cases cancelled : sink.cancels event with
  | true =>
      simp only [cancelled, Sink.Settles] at settles
      subst settles
      simp only [Ending.isCancellation, ↓reduceIte] at ran
      rcases Act.leads_throw.1 ran with ⟨rfl, rfl⟩
      exact ⟨said, unsaid, rfl⟩
  | false =>
      simp only [cancelled, Sink.Settles] at settles
      cases ended with
      | ok _ =>
          rcases Act.leads_pure.1 ran with ⟨rfl, rfl⟩
          exact ⟨said, unsaid, rfl⟩
      | error ending =>
          simp only [settles ending rfl, Bool.false_eq_true, ↓reduceIte] at ran
          rcases Act.leads_log.1 ran with ⟨rfl, rfl⟩
          exact ⟨said.trans (.logged _ _ _), by rw [World.told_logged, unsaid]; rfl, rfl⟩

theorem not_cancels_of_told {sink : Sink} {source : String} {kind : EventKind}
    {details : List Field} {host : Host} {before after : World}
    (ran : (tell sink source kind details).Leads host before (.ok ()) after) :
    sink.cancels (event host before source kind details) = false := by
  have equal := (tell_leads ran).2.2
  cases cancelled : sink.cancels (event host before source kind details) with
  | true =>
      rw [cancelled] at equal
      cases equal
  | false => rfl

theorem cancels_of_not_told {sink : Sink} {source : String} {kind : EventKind}
    {details : List Field} {host : Host} {before after : World} {ending : Ending}
    (ran : (tell sink source kind details).Leads host before (.error ending) after) :
    sink.cancels (event host before source kind details) = true ∧
      ending = .cancelled .request := by
  have equal := (tell_leads ran).2.2
  cases cancelled : sink.cancels (event host before source kind details) with
  | true =>
      rw [cancelled] at equal
      cases equal
      exact ⟨rfl, rfl⟩
  | false =>
      rw [cancelled] at equal
      cases equal

theorem tell_of_quiet {sink : Sink} {source : String} {kind : EventKind} {details : List Field}
    {host : Host} {before after : World} {outcome : Except Ending Unit} (quiet : sink.IsQuiet)
    (ran : (tell sink source kind details).Leads host before outcome after) :
    outcome = .ok () ∧ SameDeeds before after ∧
      ∃ event, after.told = before.told ++ [event] ∧ event.saying = ⟨kind, source, details⟩ := by
  rcases tell_leads ran with ⟨same, told, equal⟩
  rw [quiet] at equal
  exact ⟨equal, same, _, told, rfl⟩

end Provisioner

end Toolset
