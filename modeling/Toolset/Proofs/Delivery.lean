import Toolset.Proofs.Telling

/-!
# Delivery of events

Sinks may be put together from others to any depth.  Such a sink delivers as if its
leaves stood side by side: they are told from left to right, each of them once for each
event, and a failure of one of them is logged and keeps no other from hearing the event.
Only a leaf that calls the work off ends the delivery of an event, and the leaves after it
do not hear of that event.
-/

namespace Toolset.Sink

/-! ## Leaves -/

mutual

/-- The leaves of a sink, from left to right. -/
def leaves : Sink → List Sink
  | .several children => leavesAll children
  | sink => [sink]

def leavesAll : List Sink → List Sink
  | [] => []
  | sink :: rest => leaves sink ++ leavesAll rest

end

/-- The leaves that hear of an event: all up to the first that calls the work off, and all of
them if none does. -/
def received (event : Event) (leaves : List Sink) : List Sink :=
  leaves.take (leaves.findIdx (cancels event) + 1)

theorem received_cons (event : Event) (leaf : Sink) (rest : List Sink) :
    received event (leaf :: rest) =
      if leaf.cancels event then [leaf] else leaf :: received event rest := by
  rw [received, received, List.findIdx_cons]
  cases leaf.cancels event <;> simp

theorem received_of_quiet {event : Event} {leaves : List Sink}
    (quiet : ∀ leaf ∈ leaves, leaf.cancels event = false) : received event leaves = leaves := by
  induction leaves with
  | nil => rfl
  | cons leaf rest ih =>
      rw [List.forall_mem_cons] at quiet
      rw [received_cons, quiet.1, ih quiet.2]
      rfl

/-! ## Sinks put together -/

variable {event : Event} {host : Host} {before middle after : World}

theorem tellAll_append (event : Event) (sinks rest : List Sink) :
    tellAll event (sinks ++ rest) = tellAll event sinks >>= fun _ => tellAll event rest := by
  induction sinks with
  | nil => rw [List.nil_append, tellAll, pure_bind]
  | cons sink sinks ih =>
      rw [List.cons_append, tellAll, tellAll, ih]
      simp only [bind_assoc]

/-- A sink put together from others never fails on its own, so nothing is logged of it. -/
theorem settle_several (event : Event) (label : String) (children : List Sink) :
    (Act.outcome (tell event (several children)) >>= settle label event) =
      tellAll event children := by
  apply Act.eq_of_leads
  intro host before outcome after ran
  rcases Act.leads_outcome_bind.1 ran with ⟨ended, middle, told, ran⟩
  have equal := (tellAll_leads children told).2.2
  cases cancelled : anyCancels event children with
  | true =>
      rw [cancelled] at equal
      subst equal
      rcases Act.leads_throw.1 ran with ⟨rfl, rfl⟩
      exact told
  | false =>
      rw [cancelled] at equal
      subst equal
      rcases Act.leads_pure.1 ran with ⟨rfl, rfl⟩
      exact told

mutual

/-- A sink among several is told by telling its leaves. -/
theorem tellAll_leaves (event : Event) : (sink : Sink) →
    tellAll event [sink] = tellAll event sink.leaves
  | .silent => rfl
  | .logger _ => rfl
  | .counter => rfl
  | .custom _ _ _ => rfl
  | .several children => by
      rw [tellAll, tellAll, leaves, ← tellAll_leavesAll event children,
        ← settle_several event (several children).label children]
      exact congrArg _ (funext fun _ => bind_pure _)

theorem tellAll_leavesAll (event : Event) : (sinks : List Sink) →
    tellAll event sinks = tellAll event (leavesAll sinks)
  | [] => rfl
  | sink :: rest => by
      rw [leavesAll, tellAll_append, ← tellAll_leaves event sink,
        ← tellAll_leavesAll event rest, ← tellAll_append, List.singleton_append]

end

/-- A sink put together from others tells of an event as the flat one of its leaves does. -/
theorem tell_several_leavesAll (event : Event) (children : List Sink) :
    tell event (several children) = tell event (several (leavesAll children)) :=
  tellAll_leavesAll event children

/-! ## What is delivered -/

/-- An event that a sink was told of, and how the sink ended. -/
structure Delivery where
  event : Event
  sink : Sink
  ended : Except Ending Unit

namespace Delivery

/-- The world in which the delivery goes on: a failure was logged, a cancellation was not. -/
def settled (delivery : Delivery) (host : Host) (world : World) : World :=
  match delivery.ended with
  | .ok () => world
  | .error ending =>
      if ending.isCancellation then world
      else world.logged host (failureRecord delivery.sink.label delivery.event ending)

/-- The sink called the work off. -/
def callsOff (delivery : Delivery) : Prop :=
  ∃ ending, delivery.ended = .error ending ∧ ending.isCancellation = true

end Delivery

/-- Deliveries lead from one world to another: each sink was told of its event once, one after
another, and apart from the records of failures nothing was done in between. -/
inductive Delivered (host : Host) : World → List Delivery → World → Prop where
  | nil (world : World) : Delivered host world [] world
  | cons {before middle after : World} {delivery : Delivery} {rest : List Delivery} :
      (tell delivery.event delivery.sink).Leads host before delivery.ended middle →
      Delivered host (delivery.settled host middle) rest after →
      Delivered host before (delivery :: rest) after

/-- Who was told of what. -/
def heard (deliveries : List Delivery) : List (Event × Sink) :=
  deliveries.map fun delivery => (delivery.event, delivery.sink)

theorem Delivered.append {first second : List Delivery}
    (one : Delivered host before first middle) (two : Delivered host middle second after) :
    Delivered host before (first ++ second) after := by
  induction one with
  | nil => exact two
  | cons told _ ih => exact .cons told (ih two)

theorem callsOff_iff {delivery : Delivery}
    (told : (tell delivery.event delivery.sink).Leads host before delivery.ended after) :
    delivery.callsOff ↔ delivery.sink.cancels delivery.event = true := by
  have settles := (tell_leads delivery.sink told).2.2
  cases cancelled : delivery.sink.cancels delivery.event with
  | true =>
      rw [cancelled] at settles
      exact iff_of_true ⟨_, settles, rfl⟩ rfl
  | false =>
      rw [cancelled] at settles
      apply iff_of_false _ Bool.false_ne_true
      rintro ⟨ending, equal, calledOff⟩
      cases (settles ending equal).symm.trans calledOff

theorem Delivered.callsOff_iff {deliveries : List Delivery}
    (delivered : Delivered host before deliveries after) :
    ∀ delivery ∈ deliveries,
      delivery.callsOff ↔ delivery.sink.cancels delivery.event = true := by
  induction delivered with
  | nil => simp
  | cons told _ ih =>
      intro other member
      cases member with
      | head => exact Sink.callsOff_iff told
      | tail _ member => exact ih other member

/-- What one event does: the sinks hear of it from left to right, up to the first that calls
the work off. -/
theorem tellAll_delivered (sinks : List Sink) {outcome : Except Ending Unit}
    (ran : (tellAll event sinks).Leads host before outcome after) :
    ∃ deliveries, Delivered host before deliveries after ∧
      heard deliveries = (received event sinks).map (event, ·) := by
  induction sinks generalizing before with
  | nil =>
      rcases Act.leads_pure.1 ran with ⟨rfl, rfl⟩
      exact ⟨[], .nil _, rfl⟩
  | cons sink rest ih =>
      rw [tellAll] at ran
      rcases Act.leads_outcome_bind.1 ran with ⟨ended, middle, told, ran⟩
      have settles := (tell_leads sink told).2.2
      rw [received_cons]
      cases cancelled : sink.cancels event with
      | true =>
          rw [cancelled] at settles
          subst settles
          rcases Act.leads_throw_bind.1 ran with ⟨rfl, rfl⟩
          exact ⟨[⟨event, sink, _⟩], .cons told (.nil _), rfl⟩
      | false =>
          rw [cancelled] at settles
          let delivery : Delivery := ⟨event, sink, ended⟩
          have goesOn : (settle sink.label event ended).Leads host middle (.ok ())
              (delivery.settled host middle) := by
            cases ended with
            | ok _ => exact Act.leads_pure.2 ⟨rfl, rfl⟩
            | error ending =>
                simp only [settle, Delivery.settled, delivery, settles ending rfl,
                  Bool.false_eq_true, ↓reduceIte]
                exact Act.leads_log.2 ⟨rfl, rfl⟩
          rw [Act.leads_bind_of_ok goesOn] at ran
          rcases ih ran with ⟨deliveries, delivered, equal⟩
          refine ⟨delivery :: deliveries, .cons told delivered, ?_⟩
          rw [heard, List.map_cons, ← heard, equal]
          rfl

/-! ## One event after another -/

/-- Tell a sink of events, one after another, and hand over how each of them ended. -/
def tellEach (sink : Sink) : List Event → Act (List (Except Ending Unit))
  | [] => pure []
  | event :: rest => do
      let ended ← Act.outcome (tell event sink)
      let others ← tellEach sink rest
      return ended :: others

/-- How a sink that is put together from leaves ends when it is told of an event. -/
def endingOf (leaves : List Sink) (event : Event) : Except Ending Unit :=
  if leaves.any (cancels event) then .error (.cancelled .request) else .ok ()

theorem endingOf_of_quiet {leaves : List Sink}
    (quiet : ∀ leaf ∈ leaves, leaf.cancels event = false) : endingOf leaves event = .ok () := by
  rw [endingOf, if_neg]
  rw [Bool.not_eq_true, List.any_eq_false]
  intro leaf member
  rw [quiet leaf member]
  exact Bool.false_ne_true

theorem tellEach_congr {first second : Sink} (same : ∀ event, tell event first = tell event second)
    (events : List Event) : tellEach first events = tellEach second events := by
  induction events with
  | nil => rfl
  | cons event rest ih => rw [tellEach, tellEach, same, ih]

/-- What a run over events does: what each of them does, one after another. -/
theorem tellEach_delivered (sinks : List Sink) (events : List Event) (host : Host)
    (before : World) :
    ∃ deliveries after,
      (tellEach (several sinks) events).Leads host before (.ok (events.map (endingOf sinks)))
        after ∧
      Delivered host before deliveries after ∧
      heard deliveries = events.flatMap fun event => (received event sinks).map (event, ·) := by
  induction events generalizing before with
  | nil => exact ⟨[], before, Act.leads_pure.2 ⟨rfl, rfl⟩, .nil before, rfl⟩
  | cons event rest ih =>
      rcases (tell event (several sinks)).exists_leads host before with ⟨ended, middle, told⟩
      have ends : ended = endingOf sinks event := by
        rw [(tellAll_leads sinks told).2.2, endingOf, anyCancels_eq]
      subst ends
      rcases tellAll_delivered sinks told with ⟨first, one, hearsFirst⟩
      rcases ih middle with ⟨later, after, ran, others, hearsLater⟩
      refine ⟨first ++ later, after, ?_, one.append others, ?_⟩
      · rw [tellEach, Act.leads_bind_of_ok (Act.leads_outcome told), Act.leads_bind_of_ok ran]
        exact Act.leads_pure.2 ⟨rfl, rfl⟩
      · rw [heard, List.map_append, ← heard, ← heard, hearsFirst, hearsLater, List.flatMap_cons]

/-- A sink put together from others to any depth delivers like the flat one of its leaves.  Of
each event the leaves hear once, from left to right, up to the first that calls the work off;
whether one does is all that can be seen of an event from outside.  If none does, every leaf
hears of every event, whatever fails meanwhile, and nothing ever comes out. -/
theorem tellEach_leavesAll (children : List Sink) (events : List Event) (host : Host)
    (before : World) :
    ∃ deliveries after,
      (tellEach (several children) events).Leads host before
        (.ok (events.map (endingOf (leavesAll children)))) after ∧
      tellEach (several children) events = tellEach (several (leavesAll children)) events ∧
      Delivered host before deliveries after ∧
      heard deliveries =
        (events.flatMap fun event => (received event (leavesAll children)).map (event, ·)) ∧
      (∀ delivery ∈ deliveries,
        delivery.callsOff ↔ delivery.sink.cancels delivery.event = true) ∧
      ((∀ event ∈ events, ∀ leaf ∈ leavesAll children, leaf.cancels event = false) →
        heard deliveries = (events.flatMap fun event => (leavesAll children).map (event, ·)) ∧
        events.map (endingOf (leavesAll children)) = events.map fun _ => .ok ()) := by
  have flat := tellEach_congr (fun event => tell_several_leavesAll event children) events
  rcases tellEach_delivered (leavesAll children) events host before with
    ⟨deliveries, after, ran, delivered, hears⟩
  refine ⟨deliveries, after, flat ▸ ran, flat, delivered, hears, delivered.callsOff_iff, ?_⟩
  intro quiet
  constructor
  · rw [hears, List.flatMap_def, List.flatMap_def]
    apply congrArg List.flatten
    apply List.map_congr_left
    intro event member
    rw [received_of_quiet (quiet event member)]
  · apply List.map_congr_left
    intro event member
    exact endingOf_of_quiet (quiet event member)

end Toolset.Sink
