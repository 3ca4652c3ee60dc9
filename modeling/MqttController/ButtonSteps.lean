import MqttController.Frames

/-!
# What events do to buttons

Handling a press drops, defers and dispatches presses of one button.  For each button the handlers
follow a small machine: a press may stay deferred, and a double tap is remembered.
-/

namespace MqttController

open Std Emission

/-! ## Executions of a button's bindings -/

namespace TopologyTables

variable {tables : TopologyTables}

/-- The executions of the bindings of a button and gesture. -/
def dispatch (tables : TopologyTables) (device : DeviceIdx) (button : String) (gesture : Gesture)
    (ts : Instant) : List Operation :=
  (tables.bindingsForButton device button gesture).map fun binding =>
    .execute binding.name binding.effect ts

/-- The operation executes a binding of a button and gesture. -/
def executesFor (tables : TopologyTables) (device : DeviceIdx) (button : String)
    (gesture : Gesture) : Operation → Bool
  | .execute name _ _ =>
      (tables.bindingsForButton device button gesture).any fun binding => binding.name == name
  | _ => false

theorem mem_bindingsForButton {device : DeviceIdx} {button : String} {gesture : Gesture}
    {binding : ResolvedBinding} :
    binding ∈ tables.bindingsForButton device button gesture ↔
      binding ∈ tables.bindings ∧ binding.trigger = .button device button gesture := by
  unfold bindingsForButton
  rw [List.mem_filter]
  refine and_congr_right fun _ => ?_
  split
  · rename_i triggered
    simp [triggered, and_assoc]
  · rename_i other
    simp only [Bool.false_eq_true, false_iff]
    exact other device button gesture

/-- A binding belongs to one button and gesture only. -/
theorem filter_dispatch (valid : tables.Valid) (device other : DeviceIdx) (button name : String)
    (gesture kind : Gesture) (ts : Instant) :
    (tables.dispatch device button gesture ts).filter (tables.executesFor other name kind) =
      if (device = other ∧ button = name) ∧ gesture = kind then
        tables.dispatch device button gesture ts else [] := by
  split
  · rename_i same
    obtain ⟨⟨rfl, rfl⟩, rfl⟩ := same
    rw [List.filter_eq_self]
    intro operation member
    obtain ⟨binding, listed, rfl⟩ := List.mem_map.mp member
    exact List.any_eq_true.mpr ⟨binding, listed, beq_self_eq_true _⟩
  · rename_i different
    rw [List.filter_eq_nil_iff]
    intro operation member executes
    obtain ⟨binding, listed, rfl⟩ := List.mem_map.mp member
    obtain ⟨namesake, listed', named⟩ := List.any_eq_true.mp executes
    obtain ⟨inside, triggered⟩ := mem_bindingsForButton.mp listed
    obtain ⟨inside', triggered'⟩ := mem_bindingsForButton.mp listed'
    have same : namesake = binding :=
      List.inj_on_of_nodup_map valid.binding_names_nodup inside' inside (by simpa using named)
    rw [same, triggered] at triggered'
    cases triggered'
    exact different ⟨⟨rfl, rfl⟩, rfl⟩

end TopologyTables

/-! ## Steps -/

/-- What is known of a button. -/
structure ButtonState where
  pending : Option PendingPress
  lastTap : Option Instant

/-- A deferred press is one of the button. -/
def ButtonState.Filed (key : String × String) (state : ButtonState) : Prop :=
  ∀ press, state.pending = some press → press.device = key.1 ∧ press.button = key.2

/-- What is known of the button with a key. -/
def WorldState.buttonAt (world : WorldState) (key : String × String) : ButtonState :=
  ⟨world.pendingPresses[key]?, world.lastDoubleTap[key]?⟩

theorem WorldState.buttonAt_congr {first second : WorldState}
    (same : first.presses = second.presses) (key : String × String) :
    first.buttonAt key = second.buttonAt key := by
  unfold WorldState.buttonAt
  rw [show first.pendingPresses = second.pendingPresses from congrArg Prod.fst same,
    show first.lastDoubleTap = second.lastDoubleTap from congrArg Prod.snd same]

/-- One thing that handling a press does. -/
inductive PressStep
  | hold (key : String × String) (press : PendingPress)
  | drop (key : String × String)
  | tap (key : String × String) (ts : Instant)
  | dispatch (device : DeviceIdx) (button : String) (gesture : Gesture) (ts : Instant)

namespace PressStep

/-- The operations of a step. -/
def operations (tables : TopologyTables) : PressStep → List Operation
  | hold key press => [.deferPress key press]
  | drop key => [.dropPress key]
  | tap key ts => [.noteDoubleTap key ts]
  | dispatch device button gesture ts => tables.dispatch device button gesture ts

/-- Press handling notes no timed binding. -/
theorem noted_operations {tables : TopologyTables} (step : PressStep) :
    ∀ operation ∈ step.operations tables, operation.noted = none := by
  intro operation member
  cases step with
  | dispatch device button gesture ts =>
      obtain ⟨binding, _, rfl⟩ := List.mem_map.mp member
      rfl
  | _ =>
      rw [List.mem_singleton.mp member]
      rfl

/-- The step is about a button. -/
def About (device : DeviceIdx) (key : String × String) : PressStep → Prop
  | hold other press => other = key ∧ press.device = key.1 ∧ press.button = key.2
  | drop other => other = key
  | tap other _ => other = key
  | dispatch other button _ _ => other = device ∧ button = key.2

/-- What a step does to what is known of a button. -/
def onButton (key : String × String) (state : ButtonState) : PressStep → ButtonState
  | hold other press => if other = key then { state with pending := some press } else state
  | drop other => if other = key then { state with pending := none } else state
  | tap other ts => if other = key then { state with lastTap := some ts } else state
  | dispatch _ _ _ _ => state

/-- The gesture that a step dispatches for a button. -/
def dispatched (device : DeviceIdx) (button : String) : PressStep → Option (Gesture × Instant)
  | dispatch other name gesture ts =>
      if other = device ∧ name = button then some (gesture, ts) else none
  | _ => none

@[simp]
theorem dispatched_hold (device : DeviceIdx) (button : String) (key : String × String)
    (press : PendingPress) : (hold key press).dispatched device button = none := rfl

@[simp]
theorem dispatched_drop (device : DeviceIdx) (button : String) (key : String × String) :
    (drop key).dispatched device button = none := rfl

@[simp]
theorem dispatched_tap (device : DeviceIdx) (button : String) (key : String × String)
    (ts : Instant) : (tap key ts).dispatched device button = none := rfl

@[simp]
theorem dispatched_self (device : DeviceIdx) (button : String) (gesture : Gesture) (ts : Instant) :
    (dispatch device button gesture ts).dispatched device button = some (gesture, ts) := by
  simp [dispatched]

/-- The executions for a gesture of a button, among those of some steps. -/
theorem filter_operations {tables : TopologyTables} (valid : tables.Valid) (device : DeviceIdx)
    (button : String) (gesture : Gesture) (steps : List PressStep) :
    (steps.flatMap (operations tables)).filter (tables.executesFor device button gesture) =
      (steps.filterMap (dispatched device button)).flatMap fun sent =>
        if sent.1 = gesture then tables.dispatch device button gesture sent.2 else [] := by
  induction steps with
  | nil => rfl
  | cons step rest ih =>
      rw [List.flatMap_cons, List.filter_append, ih]
      cases step with
      | dispatch other name kind ts =>
          rw [operations, TopologyTables.filter_dispatch valid]
          by_cases same : other = device ∧ name = button
          · obtain ⟨rfl, rfl⟩ := same
            by_cases kinds : kind = gesture
            · subst kinds
              simp [dispatched]
            · simp [dispatched, kinds]
          · simp [dispatched, same]
      | _ => rfl

/-- The step is about a button and dispatches only for the device that has its name. -/
def Of (tables : TopologyTables) (key : String × String) : PressStep → Prop
  | hold other press => other = key ∧ press.device = key.1 ∧ press.button = key.2
  | drop other => other = key
  | tap other _ => other = key
  | dispatch device button _ _ => tables.deviceIdx key.1 = some device ∧ button = key.2

variable {tables : TopologyTables} {device : DeviceIdx} {key other : String × String}

theorem About.of {step : PressStep} (about : step.About device key)
    (known : tables.deviceIdx key.1 = some device) : step.Of tables key := by
  cases step with
  | dispatch other button gesture ts =>
      obtain ⟨rfl, named⟩ := about
      exact ⟨known, named⟩
  | _ => exact about

/-- A step of another button changes nothing of a button and dispatches nothing for it. -/
theorem Of.apart {step : PressStep} (of : step.Of tables other) (different : other ≠ key)
    (known : tables.deviceIdx key.1 = some device) (state : ButtonState) :
    step.onButton key state = state ∧ step.dispatched device key.2 = none := by
  cases step with
  | hold name press =>
      obtain ⟨rfl, _⟩ := of
      simp [onButton, different]
  | drop name =>
      cases of
      simp [onButton, different]
  | tap name ts =>
      cases of
      simp [onButton, different]
  | dispatch idx button gesture ts =>
      obtain ⟨here, rfl⟩ := of
      refine ⟨rfl, if_neg ?_⟩
      rintro ⟨rfl, named⟩
      have first := (tables.deviceName_of_deviceIdx here).1
      rw [(tables.deviceName_of_deviceIdx known).1] at first
      exact different (Prod.ext first.symm named)

theorem Of.filed {step : PressStep} (of : step.Of tables other) {state : ButtonState}
    (filed : state.Filed key) : (step.onButton key state).Filed key := by
  cases step with
  | hold name deferred =>
      obtain ⟨rfl, named⟩ := of
      by_cases same : name = key
      · subst same
        simpa [onButton, ButtonState.Filed] using named
      · simpa [onButton, same] using filed
  | drop name =>
      by_cases same : name = key
      · simp [onButton, same, ButtonState.Filed]
      · simpa [onButton, same] using filed
  | tap name ts =>
      by_cases same : name = key
      · simpa [onButton, same, ButtonState.Filed] using filed
      · simpa [onButton, same] using filed
  | dispatch device button gesture ts => exact filed

theorem apart_of_each {steps : List PressStep}
    (each : ∀ step ∈ steps, ∃ other, step.Of tables other ∧ other ≠ key)
    (known : tables.deviceIdx key.1 = some device) (state : ButtonState) :
    steps.foldl (onButton key) state = state ∧
      steps.filterMap (dispatched device key.2) = [] := by
  induction steps with
  | nil => exact ⟨rfl, rfl⟩
  | cons step rest ih =>
      obtain ⟨other, of, different⟩ := each step List.mem_cons_self
      obtain ⟨same, silent⟩ := of.apart different known state
      rw [List.foldl_cons, same, List.filterMap_cons_none silent]
      exact ih fun step member => each step (List.mem_cons_of_mem _ member)

end PressStep

namespace Env

variable {env : Env}

/-- Performing operations performs them in order. -/
theorem performAll_operations (env : Env) (operations : List Operation) (runtime : Runtime) :
    (env.performAll operations runtime).2.map (·.operation) = operations := by
  induction operations generalizing runtime with
  | nil => rfl
  | cons operation rest ih =>
      have first : env.performAll (operation :: rest) =
        andThen (env.perform operation) (env.performAll rest) := rfl
      rw [first, andThen_snd, List.map_append, ih]
      rfl

theorem performAll_append (env : Env) (first second : List Operation) (runtime : Runtime) :
    env.performAll (first ++ second) runtime =
      andThen (env.performAll first) (env.performAll second) runtime :=
  forEach_append env.perform first second runtime

/-- Operations that are not about presses leave what is known of a button. -/
theorem performAll_buttonAt {operations : List Operation}
    (apart : ∀ operation ∈ operations,
      operation.Admissible env.topology ∧ operation.changesPresses = false)
    (runtime : Runtime) (key : String × String) :
    (env.performAll operations runtime).1.world.buttonAt key = runtime.world.buttonAt key := by
  have keeps : Keeps (fun (_ : List Record) (reached : Runtime) =>
      reached.world.presses = runtime.world.presses) (env.performAll operations) := by
    refine Keeps.forEach operations fun operation member past reached same => ?_
    obtain ⟨admissible, other⟩ := apart operation member
    exact (Operation.run_presses admissible other reached).trans same
  exact WorldState.buttonAt_congr (keeps [] runtime rfl) key

/-- Press handling changes a button as its steps do. -/
theorem performAll_steps (steps : List PressStep) (runtime : Runtime) (key : String × String) :
    (env.performAll (steps.flatMap (PressStep.operations env.topology.toTopologyTables))
        runtime).1.world.buttonAt key =
      steps.foldl (PressStep.onButton key) (runtime.world.buttonAt key) := by
  induction steps generalizing runtime with
  | nil => rfl
  | cons step rest ih =>
      rw [List.flatMap_cons, performAll_append, andThen_fst, ih, List.foldl_cons]
      congr 1
      cases step with
      | hold other press =>
          have stored : ((runtime.world.setPending other press).buttonAt key) =
              PressStep.onButton key (runtime.world.buttonAt key) (.hold other press) := by
            unfold WorldState.buttonAt PressStep.onButton
            simp only [WorldState.setPending, TreeMap.getElem?_insert,
              LawfulEqCmp.compare_eq_iff_eq]
            split <;> rfl
          exact stored
      | drop other =>
          have stored : ((runtime.world.dropPending other).buttonAt key) =
              PressStep.onButton key (runtime.world.buttonAt key) (.drop other) := by
            unfold WorldState.buttonAt PressStep.onButton
            simp only [WorldState.dropPending, TreeMap.getElem?_erase,
              LawfulEqCmp.compare_eq_iff_eq]
            split <;> rfl
          exact stored
      | tap other ts =>
          have stored : ((runtime.world.noteDoubleTap other ts).buttonAt key) =
              PressStep.onButton key (runtime.world.buttonAt key) (.tap other ts) := by
            unfold WorldState.buttonAt PressStep.onButton
            simp only [WorldState.noteDoubleTap, TreeMap.getElem?_insert,
              LawfulEqCmp.compare_eq_iff_eq]
            split <;> rfl
          exact stored
      | dispatch device button gesture ts =>
          refine performAll_buttonAt (fun operation member => ?_) runtime key
          obtain ⟨binding, listed, rfl⟩ := List.mem_map.mp member
          exact ⟨Or.inl ⟨binding, (List.mem_filter.mp listed).1, rfl⟩, rfl⟩

end Env

/-! ## The machine of a button -/

/-- The gesture of a button that the event reports, and its time. -/
def Event.pressed (key : String × String) : Event → Option (Gesture × Instant)
  | buttonPress device button gesture ts =>
      if (device, button) = key then some (gesture, ts) else none
  | _ => none

/-- A deferred press that has not fired is dispatched. -/
def flushed (pending : Option PendingPress) : List (Gesture × Instant) :=
  match pending with
  | none => []
  | some press => if press.alreadyFired then [] else [(.press, press.ts)]

/-- What one event does to a button: what is known of it afterwards, and what it dispatches. -/
inductive ButtonStep (env : Env) (device : DeviceIdx) (key : String × String) :
    Event → ButtonState → ButtonState → List (Gesture × Instant) → Prop
  /-- The event is not about the button. -/
  | rest {event : Event} {state : ButtonState} (other : event.pressed key = none) :
      ButtonStep env device key event state state []
  /-- The deferral is over. -/
  | flush {ts : Instant} {state : ButtonState} :
      ButtonStep env device key (.tick ts) state { state with pending := none }
        (flushed state.pending)
  /-- Holding and releasing are dispatched at once. -/
  | held {event : Event} {gesture : Gesture} {ts : Instant} {state : ButtonState}
      (pressed : event.pressed key = some (gesture, ts))
      (holds : gesture = .hold ∨ gesture = .holdRelease) :
      ButtonStep env device key event state state [(gesture, ts)]
  /-- A software double tap never comes from outside. -/
  | synthetic {event : Event} {ts : Instant} {state : ButtonState}
      (pressed : event.pressed key = some (.softDoubleTap, ts)) :
      ButtonStep env device key event state state []
  /-- A double tap comes too late for its press, which fired early. -/
  | lateTap {event : Event} {ts : Instant} {state : ButtonState} {press : PendingPress}
      (pressed : event.pressed key = some (.doubleTap, ts)) (pending : state.pending = some press)
      (fired : press.alreadyFired = true) :
      ButtonStep env device key event state { state with pending := none } []
  /-- A double tap replaces the press it was deferred for. -/
  | tap {event : Event} {ts : Instant} {state : ButtonState}
      (pressed : event.pressed key = some (.doubleTap, ts))
      (unfired : ∀ press, state.pending = some press → press.alreadyFired = false) :
      ButtonStep env device key event state ⟨none, some ts⟩ [(.doubleTap, ts)]
  /-- A press right after a double tap is dropped. -/
  | dropped {event : Event} {ts last : Instant} {state : ButtonState}
      (pressed : event.pressed key = some (.press, ts))
      (hardware : env.topology.isHwDoubleTapButton device key.2 = true)
      (tapped : state.lastTap = some last)
      (within : durationSince ts last <
        Duration.fromSecsF64 env.defaults.doubleTapSuppressionSeconds) :
      ButtonStep env device key event state state []
  /-- A press whose double tap the hardware would report is deferred, or dispatched early. -/
  | deferred {event : Event} {ts : Instant} {state : ButtonState} (early : Bool)
      (pressed : event.pressed key = some (.press, ts))
      (hardware : env.topology.isHwDoubleTapButton device key.2 = true) :
      ButtonStep env device key event state
        ⟨some (env.deferredPress key ts early), state.lastTap⟩
        (flushed state.pending ++ if early then [(.press, ts)] else [])
  /-- A first press of a software double tap is deferred. -/
  | first {event : Event} {ts : Instant} {state : ButtonState}
      (pressed : event.pressed key = some (.press, ts))
      (software : env.topology.isHwDoubleTapButton device key.2 = false)
      (pending : state.pending = none) :
      ButtonStep env device key event state
        ⟨some (env.deferredPress key ts false), state.lastTap⟩ []
  /-- A second press within the window makes a double tap of both. -/
  | paired {event : Event} {ts : Instant} {state : ButtonState} {press : PendingPress}
      (pressed : event.pressed key = some (.press, ts))
      (software : env.topology.isHwDoubleTapButton device key.2 = false)
      (pending : state.pending = some press)
      (within : durationSince ts press.ts ≤ env.deferralWindow) :
      ButtonStep env device key event state { state with pending := none } [(.softDoubleTap, ts)]
  /-- A second press after the window dispatches the first one and is itself deferred. -/
  | stale {event : Event} {ts : Instant} {state : ButtonState} {press : PendingPress}
      (pressed : event.pressed key = some (.press, ts))
      (software : env.topology.isHwDoubleTapButton device key.2 = false)
      (pending : state.pending = some press) :
      ButtonStep env device key event state
        ⟨some (env.deferredPress key ts false), state.lastTap⟩ [(.press, press.ts)]
  /-- A press that no double tap can follow is dispatched at once. -/
  | direct {event : Event} {ts : Instant} {state : ButtonState}
      (pressed : event.pressed key = some (.press, ts))
      (software : env.topology.isHwDoubleTapButton device key.2 = false) :
      ButtonStep env device key event state state [(.press, ts)]

namespace Env

variable {env : Env} {device : DeviceIdx} {key : String × String} {ts : Instant}

/-- The handler performs steps about a button that amount to a step of its machine. -/
def Handles (env : Env) (device : DeviceIdx) (key : String × String) (event : Event)
    (handler : Emission.Step Runtime Record) (runtime : Runtime) : Prop :=
  ∃ steps : List PressStep,
    handler runtime =
      env.performAll (steps.flatMap (PressStep.operations env.topology.toTopologyTables)) runtime ∧
    (∀ step ∈ steps, step.About device key) ∧
    ButtonStep env device key event (runtime.world.buttonAt key)
      (steps.foldl (PressStep.onButton key) (runtime.world.buttonAt key))
      (steps.filterMap (PressStep.dispatched device key.2))

theorem handleDoubleTap_handles {event : Event}
    (pressed : event.pressed key = some (.doubleTap, ts)) (runtime : Runtime) :
    env.Handles device key event (env.handleDoubleTap key device ts) runtime := by
  cases pending : runtime.world.pendingPresses[key]? with
  | none =>
      refine ⟨[.tap key ts, .dispatch device key.2 .doubleTap ts], ?_, ?_, ?_⟩
      · simp [handleDoubleTap, pending, PressStep.operations, TopologyTables.dispatch,
          bindingOperations]
      · simp [PressStep.About]
      · have unfired : ∀ press, (runtime.world.buttonAt key).pending = some press →
            press.alreadyFired = false := by
          simp [WorldState.buttonAt, pending]
        simpa [PressStep.onButton, List.filterMap_cons, WorldState.buttonAt, pending] using
          ButtonStep.tap pressed unfired
  | some press =>
      have here : (runtime.world.buttonAt key).pending = some press := pending
      cases fired : press.alreadyFired with
      | true =>
          refine ⟨[.drop key], ?_, ?_, ?_⟩
          · simp [handleDoubleTap, pending, fired, PressStep.operations]
          · simp [PressStep.About]
          · simpa [PressStep.onButton, List.filterMap_cons]
              using ButtonStep.lateTap pressed here fired
      | false =>
          refine ⟨[.drop key, .tap key ts, .dispatch device key.2 .doubleTap ts], ?_, ?_, ?_⟩
          · simp [handleDoubleTap, pending, fired, PressStep.operations, TopologyTables.dispatch,
              bindingOperations]
          · simp [PressStep.About]
          · have unfired : ∀ press, (runtime.world.buttonAt key).pending = some press →
                press.alreadyFired = false := by
              intro other same
              rw [here] at same
              cases same
              exact fired
            simpa [PressStep.onButton, List.filterMap_cons] using ButtonStep.tap pressed unfired

theorem flushStalePress_steps (env : Env) (device : DeviceIdx) (runtime : Runtime)
    (filed : ∀ press, runtime.world.pendingPresses[key]? = some press → press.button = key.2) :
    ∃ steps : List PressStep,
      env.flushStalePress key device runtime =
        env.performAll (steps.flatMap (PressStep.operations env.topology.toTopologyTables))
          runtime ∧
      (∀ step ∈ steps, step.About device key) ∧
      steps.foldl (PressStep.onButton key) (runtime.world.buttonAt key) =
        { runtime.world.buttonAt key with pending := none } ∧
      steps.filterMap (PressStep.dispatched device key.2) =
        flushed (runtime.world.buttonAt key).pending := by
  cases pending : runtime.world.pendingPresses[key]? with
  | none =>
      refine ⟨[], ?_, by simp, ?_, ?_⟩
      · simp [flushStalePress, pending, performAll]
      · simp [WorldState.buttonAt, pending]
      · simp [WorldState.buttonAt, pending, flushed]
  | some press =>
      have named := filed press pending
      cases fired : press.alreadyFired with
      | true =>
          refine ⟨[.drop key], ?_, ?_, ?_, ?_⟩
          · simp [flushStalePress, pending, fired, PressStep.operations]
          · simp [PressStep.About]
          · simp [PressStep.onButton]
          · simp [List.filterMap_cons, WorldState.buttonAt, pending, flushed, fired]
      | false =>
          refine ⟨[.drop key, .dispatch device key.2 .press press.ts], ?_, ?_, ?_, ?_⟩
          · simp [flushStalePress, pending, fired, named, PressStep.operations,
              TopologyTables.dispatch, bindingOperations]
          · simp [PressStep.About]
          · simp [PressStep.onButton]
          · simp [List.filterMap_cons, WorldState.buttonAt, pending, flushed, fired]

theorem deferPress_steps (env : Env) (key : String × String) (device : DeviceIdx) (ts : Instant)
    (runtime : Runtime) : ∃ (early : Bool) (steps : List PressStep),
      env.deferPress key device ts runtime =
        env.performAll (steps.flatMap (PressStep.operations env.topology.toTopologyTables))
          runtime ∧
      (∀ step ∈ steps, step.About device key) ∧
      (∀ state : ButtonState, steps.foldl (PressStep.onButton key) state =
        ⟨some (env.deferredPress key ts early), state.lastTap⟩) ∧
      steps.filterMap (PressStep.dispatched device key.2) =
        if early then [(.press, ts)] else [] := by
  cases early : env.canEarlyFirePress device key.2 runtime.world with
  | true =>
      refine ⟨true, [.dispatch device key.2 .press ts, .hold key (env.deferredPress key ts true)],
        ?_, ?_, ?_, ?_⟩
      · simp [deferPress, early, PressStep.operations, TopologyTables.dispatch, bindingOperations]
      · simp [PressStep.About, deferredPress]
      · simp [PressStep.onButton]
      · simp [List.filterMap_cons]
  | false =>
      refine ⟨false, [.hold key (env.deferredPress key ts false)], ?_, ?_, ?_, ?_⟩
      · simp [deferPress, early, PressStep.operations]
      · simp [PressStep.About, deferredPress]
      · simp [PressStep.onButton]
      · simp [List.filterMap_cons]

theorem handleHwDoubleTapDeferredPress_handles {event : Event}
    (pressed : event.pressed key = some (.press, ts))
    (hardware : env.topology.isHwDoubleTapButton device key.2 = true) (runtime : Runtime)
    (filed : ∀ press, runtime.world.pendingPresses[key]? = some press → press.button = key.2) :
    env.Handles device key event (env.handleHwDoubleTapDeferredPress key device ts) runtime := by
  by_cases suppressed : (runtime.world.lastDoubleTap[key]?).any (fun last =>
      decide (durationSince ts last <
        Duration.fromSecsF64 env.defaults.doubleTapSuppressionSeconds)) = true
  · obtain ⟨last, tapped, within⟩ := (Option.any_eq_true _ _).mp suppressed
    refine ⟨[], ?_, by simp, ?_⟩
    · simp [handleHwDoubleTapDeferredPress, suppressed, performAll]
    · exact .dropped pressed hardware tapped (of_decide_eq_true within)
  · obtain ⟨flush, flushes, aboutFlush, empties, sent⟩ :=
      env.flushStalePress_steps device runtime filed
    obtain ⟨early, defer, defers, aboutDefer, stores, sentNow⟩ :=
      env.deferPress_steps key device ts (env.flushStalePress key device runtime).1
    refine ⟨flush ++ defer, ?_, ?_, ?_⟩
    · rw [List.flatMap_append, performAll_append]
      have both : env.handleHwDoubleTapDeferredPress key device ts runtime =
          andThen (env.flushStalePress key device) (env.deferPress key device ts) runtime := by
        simp [handleHwDoubleTapDeferredPress, suppressed]
      rw [both, andThen_apply, andThen_apply, ← flushes, ← defers]
    · intro step member
      rcases List.mem_append.mp member with member | member
      · exact aboutFlush step member
      · exact aboutDefer step member
    · rw [List.foldl_append, empties, stores, List.filterMap_append, sent, sentNow]
      exact .deferred early pressed hardware

theorem handleSoftDoubleTapPress_handles {event : Event}
    (pressed : event.pressed key = some (.press, ts))
    (software : env.topology.isHwDoubleTapButton device key.2 = false) (runtime : Runtime)
    (filed : ∀ press, runtime.world.pendingPresses[key]? = some press → press.button = key.2) :
    env.Handles device key event (env.handleSoftDoubleTapPress key device ts) runtime := by
  cases pending : runtime.world.pendingPresses[key]? with
  | none =>
      have here : (runtime.world.buttonAt key).pending = none := pending
      refine ⟨[.hold key (env.deferredPress key ts false)], ?_, ?_, ?_⟩
      · simp [handleSoftDoubleTapPress, pending, PressStep.operations, performAll, andThen]
      · simp [PressStep.About, deferredPress]
      · simpa [PressStep.onButton, List.filterMap_cons] using
          ButtonStep.first pressed software here
  | some press =>
      have here : (runtime.world.buttonAt key).pending = some press := pending
      have named := filed press pending
      by_cases within : durationSince ts press.ts ≤ env.deferralWindow
      · refine ⟨[.drop key, .dispatch device key.2 .softDoubleTap ts], ?_, ?_, ?_⟩
        · simp [handleSoftDoubleTapPress, pending, within, PressStep.operations,
            TopologyTables.dispatch, bindingOperations]
        · simp [PressStep.About]
        · simpa [PressStep.onButton, List.filterMap_cons] using
            ButtonStep.paired pressed software here within
      · refine ⟨[.drop key, .dispatch device key.2 .press press.ts,
          .hold key (env.deferredPress key ts false)], ?_, ?_, ?_⟩
        · simp [handleSoftDoubleTapPress, pending, within, named, PressStep.operations,
            TopologyTables.dispatch, bindingOperations]
        · simp [PressStep.About, deferredPress]
        · simpa [PressStep.onButton, List.filterMap_cons] using
            ButtonStep.stale pressed software here

/-- A press event takes its button through a step of its machine. -/
theorem handleButtonPress_handles {name button : String}
    (known : env.topology.deviceIdx name = some device) (gesture : Gesture) (ts : Instant)
    (runtime : Runtime) (filed : ∀ press,
      runtime.world.pendingPresses[(name, button)]? = some press → press.button = button) :
    env.Handles device (name, button) (.buttonPress name button gesture ts)
      (env.handleButtonPress name button gesture ts) runtime := by
  have pressed : (Event.buttonPress name button gesture ts).pressed (name, button) =
      some (gesture, ts) := by simp [Event.pressed]
  have dispatches : ∀ kind, ButtonStep env device (name, button)
      (.buttonPress name button gesture ts) (runtime.world.buttonAt (name, button))
        (runtime.world.buttonAt (name, button)) [(kind, ts)] →
      env.Handles device (name, button) (.buttonPress name button gesture ts)
        (env.performAll (env.bindingOperations device button kind ts)) runtime := by
    intro kind step
    refine ⟨[.dispatch device button kind ts], ?_, ?_, ?_⟩
    · simp [PressStep.operations, TopologyTables.dispatch, bindingOperations]
    · simp [PressStep.About]
    · simpa [PressStep.onButton, List.filterMap_cons] using step
  unfold handleButtonPress
  rw [known]
  cases gesture with
  | doubleTap => exact handleDoubleTap_handles pressed runtime
  | press =>
      dsimp only
      split_ifs with hardware software
      · exact handleHwDoubleTapDeferredPress_handles pressed hardware runtime filed
      · exact handleSoftDoubleTapPress_handles pressed
          (Bool.eq_false_of_not_eq_true hardware) runtime filed
      · exact dispatches .press (.direct pressed (Bool.eq_false_of_not_eq_true hardware))
  | softDoubleTap => exact ⟨[], rfl, by simp, .synthetic pressed⟩
  | hold => exact dispatches .hold (.held pressed (.inl rfl))
  | holdRelease => exact dispatches .holdRelease (.held pressed (.inr rfl))

/-! ## The button stage of an event -/

/-- What an event does to buttons. -/
def buttonStage (env : Env) : Event → Emission.Step Runtime Record
  | .buttonPress device button gesture ts => env.handleButtonPress device button gesture ts
  | .tick ts => env.flushPendingPresses ts
  | _ => Emission.silent id

/-- The steps that flush a deferred press. -/
def flushSteps (env : Env) (entry : (String × String) × PendingPress) : List PressStep :=
  .drop entry.1 ::
    if entry.2.alreadyFired then []
    else
      match env.topology.deviceIdx entry.2.device with
      | none => []
      | some idx => [.dispatch idx entry.2.button .press entry.2.ts]

theorem flushSteps_operations (entry : (String × String) × PendingPress) :
    (env.flushSteps entry).flatMap (PressStep.operations env.topology.toTopologyTables) =
      env.flushPress entry := by
  rw [flushSteps, flushPress]
  cases fired : entry.2.alreadyFired with
  | true => rfl
  | false =>
      cases known : env.topology.deviceIdx entry.2.device with
      | none => rfl
      | some idx => simp [PressStep.operations, TopologyTables.dispatch, bindingOperations]

theorem flushSteps_of {entry : (String × String) × PendingPress}
    (filed : entry.2.device = entry.1.1 ∧ entry.2.button = entry.1.2) :
    ∀ step ∈ env.flushSteps entry, step.Of env.topology.toTopologyTables entry.1 := by
  unfold flushSteps
  intro step member
  rcases List.mem_cons.mp member with rfl | member
  · rfl
  · split at member
    · cases member
    · split at member
      · cases member
      · rename_i idx known
        rw [List.mem_singleton.mp member]
        exact ⟨by rw [← filed.1]; exact known, filed.2⟩

end Env

/-- Every deferred press is filed under its own button. -/
def WorldState.PressesFiled (world : WorldState) : Prop :=
  ∀ (key : String × String) (press : PendingPress), world.pendingPresses[key]? = some press →
    press.device = key.1 ∧ press.button = key.2

theorem WorldState.pressesFiled_congr {first second : WorldState}
    (same : first.presses = second.presses) (filed : second.PressesFiled) : first.PressesFiled := by
  unfold WorldState.PressesFiled
  rw [show first.pendingPresses = second.pendingPresses from congrArg Prod.fst same]
  exact filed

namespace Env

variable {env : Env} {device : DeviceIdx} {key : String × String}

/-- Flushing the deferred press of the button dispatches it, unless it has fired already. -/
theorem flushSteps_self (known : env.topology.deviceIdx key.1 = some device) {press : PendingPress}
    (filed : press.device = key.1 ∧ press.button = key.2) (state : ButtonState) :
    (env.flushSteps (key, press)).foldl (PressStep.onButton key) state =
        { state with pending := none } ∧
      (env.flushSteps (key, press)).filterMap (PressStep.dispatched device key.2) =
        flushed (some press) := by
  obtain ⟨named, button⟩ := filed
  cases fired : press.alreadyFired with
  | true => simp [flushSteps, flushed, fired, PressStep.onButton, List.filterMap_cons]
  | false =>
      simp [flushSteps, flushed, fired, named, known, button, PressStep.onButton,
        List.filterMap_cons]

/-- Flushing the deferred presses of other buttons leaves the button alone. -/
theorem flushSteps_apart (known : env.topology.deviceIdx key.1 = some device)
    {entries : List ((String × String) × PendingPress)}
    (of : ∀ entry ∈ entries, ∀ step ∈ env.flushSteps entry,
      step.Of env.topology.toTopologyTables entry.1)
    (others : ∀ entry ∈ entries, entry.1 ≠ key) (state : ButtonState) :
    (entries.flatMap env.flushSteps).foldl (PressStep.onButton key) state = state ∧
      (entries.flatMap env.flushSteps).filterMap (PressStep.dispatched device key.2) = [] := by
  refine PressStep.apart_of_each (fun step member => ?_) known state
  obtain ⟨entry, inside, member⟩ := List.mem_flatMap.mp member
  exact ⟨entry.1, of entry inside step member, others entry inside⟩

theorem flushPendingPresses_step (known : env.topology.deviceIdx key.1 = some device)
    (ts : Instant) {runtime : Runtime} (filed : runtime.world.PressesFiled) :
    ∃ steps : List PressStep,
      env.flushPendingPresses ts runtime =
        env.performAll (steps.flatMap (PressStep.operations env.topology.toTopologyTables))
          runtime ∧
      (∀ step ∈ steps, ∃ other, step.Of env.topology.toTopologyTables other) ∧
      ButtonStep env device key (.tick ts) (runtime.world.buttonAt key)
        (steps.foldl (PressStep.onButton key) (runtime.world.buttonAt key))
        (steps.filterMap (PressStep.dispatched device key.2)) := by
  generalize expires : (runtime.world.pendingPresses.toList.filter fun entry =>
    decide (entry.2.deadline ≤ ts)) = expired
  have stored : ∀ entry ∈ expired, runtime.world.pendingPresses[entry.1]? = some entry.2 := by
    intro entry member
    rw [← expires] at member
    exact TreeMap.mem_toList_iff_getElem?_eq_some.mp (List.mem_filter.mp member).1
  have of : ∀ entry ∈ expired, ∀ step ∈ env.flushSteps entry,
      step.Of env.topology.toTopologyTables entry.1 := fun entry member =>
    flushSteps_of (filed entry.1 entry.2 (stored entry member))
  refine ⟨expired.flatMap env.flushSteps, ?_, ?_, ?_⟩
  · unfold flushPendingPresses
    dsimp only
    rw [expires, List.flatMap_assoc]
    simp only [flushSteps_operations]
  · intro step member
    obtain ⟨entry, inside, member⟩ := List.mem_flatMap.mp member
    exact ⟨entry.1, of entry inside step member⟩
  · by_cases due : ∃ press, (key, press) ∈ expired
    · obtain ⟨press, member⟩ := due
      have names : (expired.map Prod.fst).Nodup := by
        rw [← expires]
        exact (OrderedMap.nodup_keys _).sublist (List.filter_sublist.map _)
      obtain ⟨front, back, split⟩ := List.append_of_mem member
      rw [split, List.map_append, List.map_cons, List.nodup_middle, List.nodup_cons,
        ← List.map_append] at names
      rw [split] at of
      have others : ∀ entry ∈ front ++ back, entry.1 ≠ key := fun entry inside same =>
        names.1 (List.mem_map.mpr ⟨entry, inside, same⟩)
      have before := flushSteps_apart known
        (fun entry inside => of entry (List.mem_append_left _ inside))
        (fun entry inside => others entry (List.mem_append_left _ inside))
      have after := flushSteps_apart known
        (fun entry inside => of entry (List.mem_append_right _ (List.mem_cons_of_mem _ inside)))
        (fun entry inside => others entry (List.mem_append_right _ inside))
      have here := stored (key, press) member
      have pending : (runtime.world.buttonAt key).pending = some press := here
      obtain ⟨taken, sent⟩ := flushSteps_self known (filed key press here)
        (runtime.world.buttonAt key)
      rw [← pending] at sent
      rw [split, List.flatMap_append, List.flatMap_cons, List.foldl_append, List.foldl_append,
        (before _).1, taken, (after _).1, List.filterMap_append, List.filterMap_append,
        (before (runtime.world.buttonAt key)).2, sent, (after (runtime.world.buttonAt key)).2,
        List.nil_append, List.append_nil]
      exact .flush
    · obtain ⟨same, silent⟩ := flushSteps_apart known of
        (fun entry inside same => due ⟨entry.2, same ▸ inside⟩) (runtime.world.buttonAt key)
      rw [same, silent]
      exact .rest rfl

/-- An event takes every button through a step of its machine. -/
theorem buttonStage_step (known : env.topology.deviceIdx key.1 = some device) (event : Event)
    {runtime : Runtime} (filed : runtime.world.PressesFiled) :
    ∃ steps : List PressStep,
      env.buttonStage event runtime =
        env.performAll (steps.flatMap (PressStep.operations env.topology.toTopologyTables))
          runtime ∧
      (∀ step ∈ steps, ∃ other, step.Of env.topology.toTopologyTables other) ∧
      ButtonStep env device key event (runtime.world.buttonAt key)
        (steps.foldl (PressStep.onButton key) (runtime.world.buttonAt key))
        (steps.filterMap (PressStep.dispatched device key.2)) := by
  cases event with
  | buttonPress name button gesture ts =>
      by_cases same : (name, button) = key
      · subst same
        obtain ⟨steps, performed, about, step⟩ :=
          handleButtonPress_handles known gesture ts runtime fun press here =>
            (filed _ press here).2
        exact ⟨steps, performed, fun step member => ⟨_, (about step member).of known⟩, step⟩
      · have other : (Event.buttonPress name button gesture ts).pressed key = none := if_neg same
        cases named : env.topology.deviceIdx name with
        | none =>
            refine ⟨[], ?_, by simp, .rest other⟩
            simp only [buttonStage, handleButtonPress, named]
            rfl
        | some idx =>
            obtain ⟨steps, performed, about, _⟩ :=
              handleButtonPress_handles named gesture ts runtime
                fun press (here : runtime.world.pendingPresses[(name, button)]? = some press) =>
                  (filed _ press here).2
            have of := fun step member => (about step member).of named
            obtain ⟨same, silent⟩ := PressStep.apart_of_each
              (fun step member => ⟨_, of step member, same⟩) known (runtime.world.buttonAt key)
            refine ⟨steps, performed, fun step member => ⟨_, of step member⟩, ?_⟩
            rw [same, silent]
            exact .rest other
  | tick ts => exact flushPendingPresses_step known ts filed
  | _ => exact ⟨[], rfl, by simp, .rest rfl⟩

/-- Press handling keeps deferred presses under their own buttons. -/
theorem performAll_filed {steps : List PressStep}
    (of : ∀ step ∈ steps, ∃ other, step.Of env.topology.toTopologyTables other) {runtime : Runtime}
    (filed : runtime.world.PressesFiled) :
    (env.performAll (steps.flatMap (PressStep.operations env.topology.toTopologyTables))
      runtime).1.world.PressesFiled := by
  intro key press stored
  have pending := congrArg ButtonState.pending (env.performAll_steps steps runtime key)
  rw [show ((env.performAll _ runtime).1.world.buttonAt key).pending = some press from stored]
    at pending
  have each : ∀ (steps : List PressStep) (state : ButtonState),
      (∀ step ∈ steps, ∃ other, step.Of env.topology.toTopologyTables other) →
      state.Filed key → (steps.foldl (PressStep.onButton key) state).Filed key := by
    intro steps
    induction steps with
    | nil => exact fun _ _ filed => filed
    | cons step rest ih =>
        intro state of filed
        obtain ⟨other, here⟩ := of step List.mem_cons_self
        exact ih _ (fun step member => of step (List.mem_cons_of_mem _ member)) (here.filed filed)
  exact each steps _ of (fun press here => filed key press here) press pending.symm

end Env

end MqttController
