import MqttController.ButtonSteps

/-!
# No press is lost

In every run each press of a button has one fate: it is dispatched once, dropped right after a
double tap, cancelled by one double tap, paired with one other press, or still deferred.
-/

namespace MqttController

open Std Emission

/-! ## Touches and fates -/

/-- A press or a double tap: the position of its input, and its time. -/
structure Touch where
  position : Nat
  ts : Instant
  deriving DecidableEq

/-- The gesture of a button that the input reports, and its time. -/
def Input.pressed (key : String × String) : Input → Option (Gesture × Instant)
  | event reported => reported.pressed key
  | _ => none

/-- The touches of a button with a gesture. -/
def touches (key : String × String) (gesture : Gesture) (inputs : List (ClockReading × Input)) :
    List Touch :=
  inputs.zipIdx.filterMap fun entry =>
    (entry.1.2.pressed key).bind fun pressed =>
      if pressed.1 = gesture then some ⟨entry.2, pressed.2⟩ else none

/-- What became of the presses of a button, and the double taps that were dispatched. -/
structure PressFates where
  dispatched : List Touch := []
  /-- Presses with the double tap that suppressed them. -/
  dropped : List (Touch × Touch) := []
  /-- Presses with the double tap that replaced them. -/
  cancelled : List (Touch × Touch) := []
  paired : List (Touch × Touch) := []
  pending : Option Touch := none
  taps : List Touch := []

namespace PressFates

/-- The presses that have a fate, once for each. -/
def presses (fates : PressFates) : List Touch :=
  fates.dispatched ++ fates.dropped.map Prod.fst ++ fates.cancelled.map Prod.fst ++
    fates.paired.flatMap (fun pair => [pair.1, pair.2]) ++ fates.pending.toList

/-- The fates account for every press of a button. -/
structure Sound (fates : PressFates) (automation : Automation) (key : String × String)
    (inputs : List (ClockReading × Input)) (state : ButtonState) : Prop where
  /-- Every press has one fate. -/
  presses : fates.presses.Perm (touches key .press inputs)
  /-- Every double tap is dispatched at most once. -/
  taps : fates.taps.Sublist (touches key .doubleTap inputs)
  /-- A dropped press follows its double tap within the suppression window. -/
  dropped : ∀ entry ∈ fates.dropped, entry.2 ∈ fates.taps ∧
    entry.2.position < entry.1.position ∧ durationSince entry.1.ts entry.2.ts <
      Duration.fromSecsF64 automation.defaults.doubleTapSuppressionSeconds
  /-- A cancelled press precedes its double tap. -/
  cancelled : ∀ entry ∈ fates.cancelled, entry.2 ∈ fates.taps ∧
    entry.1.position < entry.2.position
  /-- A double tap cancels one press at most. -/
  cancelled_once : (fates.cancelled.map Prod.snd).Nodup
  /-- Paired presses lie within the window. -/
  paired : ∀ entry ∈ fates.paired, entry.1.position < entry.2.position ∧
    durationSince entry.2.ts entry.1.ts ≤
      Duration.fromSecsF64 automation.defaults.softDoubleTapWindowSeconds
  /-- The pending press is the deferred one that has not fired. -/
  pending : (state.pending.filter fun press => !press.alreadyFired).map (·.ts) =
    fates.pending.map (·.ts)

/-- Dispatch the pending press. -/
def flush (fates : PressFates) : PressFates :=
  { fates with dispatched := fates.dispatched ++ fates.pending.toList, pending := none }

theorem flush_presses (fates : PressFates) : fates.flush.presses.Perm fates.presses := by
  unfold presses flush
  simp only [Option.toList_none, List.append_nil, List.append_assoc]
  refine List.Perm.append_left _ ?_
  refine List.perm_append_comm.trans ?_
  simp only [List.append_assoc]
  exact List.Perm.refl _

end PressFates

/-! ## Touches of a longer run -/

section Touches

variable {key : String × String} {inputs : List (ClockReading × Input)} {gesture : Gesture}

theorem touches_concat (inputs : List (ClockReading × Input)) (clock : ClockReading)
    (input : Input) :
    touches key gesture (inputs ++ [(clock, input)]) = touches key gesture inputs ++
      ((input.pressed key).bind fun pressed =>
        if pressed.1 = gesture then some (Touch.mk inputs.length pressed.2) else none).toList := by
  unfold touches
  rw [List.zipIdx_append, List.filterMap_append]
  congr 1
  cases pressed : input.pressed key with
  | none => simp [pressed]
  | some touched =>
      by_cases same : touched.1 = gesture
      · simp [pressed, same]
      · simp [pressed, same]

theorem touches_of_unpressed {clock : ClockReading} {input : Input}
    (unpressed : input.pressed key = none) :
    touches key gesture (inputs ++ [(clock, input)]) = touches key gesture inputs := by
  rw [touches_concat, unpressed]
  simp

theorem touches_of_other {clock : ClockReading} {input : Input} {kind : Gesture} {ts : Instant}
    (pressed : input.pressed key = some (kind, ts)) (other : kind ≠ gesture) :
    touches key gesture (inputs ++ [(clock, input)]) = touches key gesture inputs := by
  rw [touches_concat, pressed]
  simp [other]

theorem touches_of_pressed {clock : ClockReading} {input : Input} {ts : Instant}
    (pressed : input.pressed key = some (gesture, ts)) :
    touches key gesture (inputs ++ [(clock, input)]) =
      touches key gesture inputs ++ [⟨inputs.length, ts⟩] := by
  rw [touches_concat, pressed]
  simp

theorem position_lt {touch : Touch} (member : touch ∈ touches key gesture inputs) :
    touch.position < inputs.length := by
  obtain ⟨⟨entry, position⟩, inside, found⟩ := List.mem_filterMap.mp member
  obtain ⟨pressed, _, found⟩ := Option.bind_eq_some_iff.mp found
  split at found
  · cases found
    exact List.snd_lt_of_mem_zipIdx inside
  · cases found

theorem touches_nodup (inputs : List (ClockReading × Input)) :
    (touches key gesture inputs).Nodup := by
  induction inputs using List.reverseRecOn with
  | nil => exact List.nodup_nil
  | append_singleton inputs last ih =>
      rw [touches_concat]
      refine ih.append (by cases Option.bind _ _ <;> simp) ?_
      intro touch inside last
      have earlier := position_lt inside
      rw [Option.mem_toList, Option.bind_eq_some_iff] at last
      obtain ⟨pressed, _, found⟩ := last
      split at found
      · cases found
        exact absurd earlier (lt_irrefl _)
      · cases found

end Touches

/-! ## The accounts of a button -/

/-- The times at which a gesture was dispatched. -/
def timesOf (gesture : Gesture) (sent : List (Gesture × Instant)) : List Instant :=
  (sent.filter fun entry => entry.1 == gesture).map Prod.snd

theorem timesOf_append (gesture : Gesture) (first second : List (Gesture × Instant)) :
    timesOf gesture (first ++ second) = timesOf gesture first ++ timesOf gesture second := by
  unfold timesOf
  rw [List.filter_append, List.map_append]

theorem flatMap_timesOf {β : Type} (gesture : Gesture) (sent : List (Gesture × Instant))
    (dispatch : Instant → List β) :
    (timesOf gesture sent).flatMap dispatch =
      sent.flatMap fun entry => if entry.1 = gesture then dispatch entry.2 else [] := by
  induction sent with
  | nil => rfl
  | cons entry rest ih =>
      have split : timesOf gesture (entry :: rest) =
          timesOf gesture [entry] ++ timesOf gesture rest := timesOf_append gesture [entry] rest
      rw [split, List.flatMap_append, List.flatMap_cons, ih]
      by_cases same : entry.1 = gesture
      · simp [timesOf, same]
      · simp [timesOf, same]

namespace PressFates

/-- The fates account for every press and for everything that was dispatched. -/
structure Accounts (fates : PressFates) (automation : Automation) (device : DeviceIdx)
    (key : String × String) (inputs : List (ClockReading × Input))
    (sent : List (Gesture × Instant)) (state : ButtonState) : Prop where
  sound : fates.Sound automation key inputs state
  sent_presses : timesOf .press sent = fates.dispatched.map (·.ts)
  sent_taps : timesOf .doubleTap sent = fates.taps.map (·.ts)
  sent_pairs : timesOf .softDoubleTap sent = fates.paired.map (·.2.ts)
  lastTap : state.lastTap = fates.taps.getLast?.map (·.ts)
  hardware : automation.topology.isHwDoubleTapButton device key.2 = true → fates.paired = []
  software : automation.topology.isHwDoubleTapButton device key.2 = false →
    ∀ press, state.pending = some press → press.alreadyFired = false

namespace Accounts

variable {fates : PressFates} {automation : Automation} {device : DeviceIdx}
  {key : String × String} {inputs : List (ClockReading × Input)}
  {sent : List (Gesture × Instant)} {state : ButtonState} {clock : ClockReading} {input : Input}
  {ts : Instant}

theorem launch (automation : Automation) (device : DeviceIdx) (key : String × String) :
    ({} : PressFates).Accounts automation device key [] [] ⟨none, none⟩ where
  sound :=
    { presses := by simp [PressFates.presses, touches]
      taps := by simp
      dropped := by simp
      cancelled := by simp
      cancelled_once := by simp
      paired := by simp
      pending := rfl }
  sent_presses := rfl
  sent_taps := rfl
  sent_pairs := rfl
  lastTap := rfl
  hardware _ := rfl
  software _ press pending := by cases pending

/-- An input that neither presses nor double taps the button changes no account. -/
theorem untouched (accounts : fates.Accounts automation device key inputs sent state)
    (press : touches key .press (inputs ++ [(clock, input)]) = touches key .press inputs)
    (tap : touches key .doubleTap (inputs ++ [(clock, input)]) = touches key .doubleTap inputs) :
    fates.Accounts automation device key (inputs ++ [(clock, input)]) sent state :=
  { accounts with
    sound := { accounts.sound with
      presses := by
        rw [press]
        exact accounts.sound.presses
      taps := by
        rw [tap]
        exact accounts.sound.taps } }

theorem pending_none (accounts : fates.Accounts automation device key inputs sent state)
    (none : state.pending = none) : fates.pending = Option.none := by
  have pending := accounts.sound.pending
  rw [none] at pending
  exact Option.map_eq_none_iff.mp pending.symm

theorem flushed_eq (accounts : fates.Accounts automation device key inputs sent state) :
    flushed state.pending = fates.pending.toList.map fun touch => (.press, touch.ts) := by
  have pending := accounts.sound.pending
  unfold flushed
  cases held : state.pending with
  | none =>
      rw [accounts.pending_none held]
      rfl
  | some press =>
      rw [held, Option.filter_some] at pending
      cases fired : press.alreadyFired with
      | true =>
          rw [fired] at pending
          rw [Option.map_eq_none_iff.mp pending.symm]
          simp [fired]
      | false =>
          rw [fired] at pending
          obtain ⟨touch, here, same⟩ := Option.map_eq_some_iff.mp pending.symm
          simp [here, same, fired]

theorem flush (accounts : fates.Accounts automation device key inputs sent state) :
    fates.flush.Accounts automation device key inputs (sent ++ flushed state.pending)
      { state with pending := none } where
  sound :=
    { presses := fates.flush_presses.trans accounts.sound.presses
      taps := accounts.sound.taps
      dropped := accounts.sound.dropped
      cancelled := accounts.sound.cancelled
      cancelled_once := accounts.sound.cancelled_once
      paired := accounts.sound.paired
      pending := rfl }
  sent_presses := by
    rw [timesOf_append, accounts.sent_presses, accounts.flushed_eq]
    simp [PressFates.flush, timesOf, List.filter_map, Function.comp_def]
  sent_taps := by
    rw [timesOf_append, accounts.sent_taps, accounts.flushed_eq]
    simp [PressFates.flush, timesOf]
  sent_pairs := by
    rw [timesOf_append, accounts.sent_pairs, accounts.flushed_eq]
    simp [PressFates.flush, timesOf]
  lastTap := accounts.lastTap
  hardware := accounts.hardware
  software _ press pending := by cases pending

/-- A press that is deferred, or dispatched early. -/
theorem defer (accounts : fates.Accounts automation device key inputs sent state)
    (clock : ClockReading) (press : PendingPress)
    (pressed : input.pressed key = some (.press, ts)) (none : state.pending = none)
    (stamped : press.ts = ts)
    (software : automation.topology.isHwDoubleTapButton device key.2 = false →
      press.alreadyFired = false) :
    ∃ fates : PressFates, fates.Accounts automation device key (inputs ++ [(clock, input)])
      (sent ++ if press.alreadyFired then [(.press, ts)] else []) ⟨some press, state.lastTap⟩ := by
  have idle := accounts.pending_none none
  have taps : touches key .doubleTap (inputs ++ [(clock, input)]) =
      touches key .doubleTap inputs := touches_of_other pressed (by decide)
  have count := accounts.sound.presses.count_eq
  cases fired : press.alreadyFired with
  | true =>
      refine ⟨{ fates with dispatched := fates.dispatched ++ [⟨inputs.length, ts⟩] },
        { sound := ⟨?_, by rw [taps]; exact accounts.sound.taps, accounts.sound.dropped,
            accounts.sound.cancelled, accounts.sound.cancelled_once, accounts.sound.paired, ?_⟩
          sent_presses := ?_, sent_taps := ?_, sent_pairs := ?_, lastTap := accounts.lastTap
          hardware := accounts.hardware, software := ?_ }⟩
      · rw [touches_of_pressed pressed, List.perm_iff_count]
        intro touch
        have here := count touch
        simp only [PressFates.presses, List.count_append] at here ⊢
        omega
      · simp [fired, idle]
      · rw [timesOf_append, accounts.sent_presses]
        simp [timesOf]
      · rw [timesOf_append, accounts.sent_taps]
        simp [timesOf]
      · rw [timesOf_append, accounts.sent_pairs]
        simp [timesOf]
      · intro soft
        rw [software soft] at fired
        cases fired
  | false =>
      refine ⟨{ fates with pending := some ⟨inputs.length, ts⟩ },
        { sound := ⟨?_, by rw [taps]; exact accounts.sound.taps, accounts.sound.dropped,
            accounts.sound.cancelled, accounts.sound.cancelled_once, accounts.sound.paired, ?_⟩
          sent_presses := ?_, sent_taps := ?_, sent_pairs := ?_, lastTap := accounts.lastTap
          hardware := accounts.hardware, software := ?_ }⟩
      · rw [touches_of_pressed pressed, List.perm_iff_count]
        intro touch
        have here := count touch
        simp only [PressFates.presses, idle, List.count_append, Option.toList_none,
          Option.toList_some, List.count_nil] at here ⊢
        omega
      · simp [fired, stamped]
      · simpa using accounts.sent_presses
      · simpa using accounts.sent_taps
      · simpa using accounts.sent_pairs
      · intro soft other pending
        cases pending
        exact fired

/-- A press that is dispatched at once. -/
theorem direct (accounts : fates.Accounts automation device key inputs sent state)
    (pressed : input.pressed key = some (.press, ts)) :
    ∃ fates : PressFates, fates.Accounts automation device key (inputs ++ [(clock, input)])
      (sent ++ [(.press, ts)]) state := by
  have taps : touches key .doubleTap (inputs ++ [(clock, input)]) =
      touches key .doubleTap inputs := touches_of_other pressed (by decide)
  refine ⟨{ fates with dispatched := fates.dispatched ++ [⟨inputs.length, ts⟩] },
    { accounts with
      sound := { accounts.sound with
        presses := ?_
        taps := by rw [taps]; exact accounts.sound.taps }
      sent_presses := ?_, sent_taps := ?_, sent_pairs := ?_ }⟩
  · rw [touches_of_pressed pressed, List.perm_iff_count]
    intro touch
    have here := accounts.sound.presses.count_eq touch
    simp only [PressFates.presses, List.count_append] at here ⊢
    omega
  · rw [timesOf_append, accounts.sent_presses]
    simp [timesOf]
  · rw [timesOf_append, accounts.sent_taps]
    simp [timesOf]
  · rw [timesOf_append, accounts.sent_pairs]
    simp [timesOf]

/-- A press right after a double tap. -/
theorem drop (accounts : fates.Accounts automation device key inputs sent state)
    (pressed : input.pressed key = some (.press, ts)) {last : Instant}
    (tapped : state.lastTap = some last) (within : durationSince ts last <
      Duration.fromSecsF64 automation.defaults.doubleTapSuppressionSeconds) :
    ∃ fates : PressFates, fates.Accounts automation device key (inputs ++ [(clock, input)]) sent
      state := by
  have taps : touches key .doubleTap (inputs ++ [(clock, input)]) =
      touches key .doubleTap inputs := touches_of_other pressed (by decide)
  rw [accounts.lastTap] at tapped
  obtain ⟨tap, latest, rfl⟩ := Option.map_eq_some_iff.mp tapped
  have listed : tap ∈ fates.taps := List.mem_of_getLast? latest
  refine ⟨{ fates with dropped := fates.dropped ++ [(⟨inputs.length, ts⟩, tap)] },
    { accounts with
      sound := { accounts.sound with
        presses := ?_, taps := by rw [taps]; exact accounts.sound.taps, dropped := ?_ } }⟩
  · rw [touches_of_pressed pressed, List.perm_iff_count]
    intro touch
    have here := accounts.sound.presses.count_eq touch
    simp only [PressFates.presses, List.count_append, List.map_append, List.map_cons,
      List.map_nil] at here ⊢
    omega
  · intro entry member
    rcases List.mem_append.mp member with member | member
    · exact accounts.sound.dropped entry member
    · rw [List.mem_singleton.mp member]
      exact ⟨listed, position_lt (accounts.sound.taps.subset listed), within⟩

/-- A second press within the window. -/
theorem pair (accounts : fates.Accounts automation device key inputs sent state)
    (pressed : input.pressed key = some (.press, ts)) {press : PendingPress}
    (software : automation.topology.isHwDoubleTapButton device key.2 = false)
    (pending : state.pending = some press) (within : durationSince ts press.ts ≤
      Duration.fromSecsF64 automation.defaults.softDoubleTapWindowSeconds) :
    ∃ fates : PressFates, fates.Accounts automation device key (inputs ++ [(clock, input)])
      (sent ++ [(.softDoubleTap, ts)]) { state with pending := none } := by
  have taps : touches key .doubleTap (inputs ++ [(clock, input)]) =
      touches key .doubleTap inputs := touches_of_other pressed (by decide)
  have unfired := accounts.software software press pending
  have waits := accounts.sound.pending
  rw [pending, Option.filter_some, unfired] at waits
  obtain ⟨touch, here, stamped⟩ := Option.map_eq_some_iff.mp waits.symm
  have listed : touch ∈ touches key .press inputs := by
    refine accounts.sound.presses.subset ?_
    simp [PressFates.presses, here]
  refine ⟨{ fates with paired := fates.paired ++ [(touch, ⟨inputs.length, ts⟩)], pending := none },
    { accounts with
      sound := { accounts.sound with
        presses := ?_, taps := by rw [taps]; exact accounts.sound.taps, paired := ?_
        pending := rfl }
      sent_presses := ?_, sent_taps := ?_, sent_pairs := ?_, hardware := ?_
      software := fun _ _ gone => by cases gone }⟩
  · rw [touches_of_pressed pressed, List.perm_iff_count]
    intro other
    have here' := accounts.sound.presses.count_eq other
    simp only [PressFates.presses, here, List.count_append, List.flatMap_append,
      List.flatMap_cons, List.flatMap_nil, Option.toList_some, Option.toList_none, List.count_cons,
      List.count_nil] at here' ⊢
    omega
  · intro entry member
    rcases List.mem_append.mp member with member | member
    · exact accounts.sound.paired entry member
    · rw [List.mem_singleton.mp member]
      refine ⟨position_lt listed, ?_⟩
      rw [show touch.ts = press.ts from stamped]
      exact within
  · rw [timesOf_append, accounts.sent_presses]
    simp [timesOf]
  · rw [timesOf_append, accounts.sent_taps]
    simp [timesOf]
  · rw [timesOf_append, accounts.sent_pairs]
    simp [timesOf]
  · intro hardware
    rw [software] at hardware
    cases hardware

/-- A double tap, which replaces a pending press. -/
theorem tap (accounts : fates.Accounts automation device key inputs sent state)
    (pressed : input.pressed key = some (.doubleTap, ts)) :
    ∃ fates : PressFates, fates.Accounts automation device key (inputs ++ [(clock, input)])
      (sent ++ [(.doubleTap, ts)]) ⟨none, some ts⟩ := by
  have presses : touches key .press (inputs ++ [(clock, input)]) = touches key .press inputs :=
    touches_of_other pressed (by decide)
  have fresh : ∀ entry ∈ fates.cancelled, entry.2 ≠ ⟨inputs.length, ts⟩ := by
    intro entry member same
    have earlier :=
      position_lt (accounts.sound.taps.subset (accounts.sound.cancelled entry member).1)
    rw [same] at earlier
    exact absurd earlier (lt_irrefl _)
  refine ⟨{ fates with
      taps := fates.taps ++ [⟨inputs.length, ts⟩]
      cancelled := fates.cancelled ++ fates.pending.toList.map fun touch =>
        (touch, ⟨inputs.length, ts⟩)
      pending := none },
    { accounts with
      sound := { accounts.sound with
        presses := ?_, taps := ?_, dropped := ?_, cancelled := ?_, cancelled_once := ?_
        pending := rfl }
      sent_presses := ?_, sent_taps := ?_, sent_pairs := ?_, lastTap := by simp
      software := fun _ _ gone => by cases gone }⟩
  · rw [presses, List.perm_iff_count]
    intro touch
    have here := accounts.sound.presses.count_eq touch
    simp only [PressFates.presses, List.count_append, List.map_append, List.map_map,
      Function.comp_def, List.map_id', Option.toList_none, List.count_nil] at here ⊢
    omega
  · rw [touches_of_pressed pressed]
    exact accounts.sound.taps.append (List.Sublist.refl _)
  · intro entry member
    obtain ⟨listed, order, within⟩ := accounts.sound.dropped entry member
    exact ⟨List.mem_append_left _ listed, order, within⟩
  · intro entry member
    rcases List.mem_append.mp member with member | member
    · obtain ⟨listed, order⟩ := accounts.sound.cancelled entry member
      exact ⟨List.mem_append_left _ listed, order⟩
    · obtain ⟨touch, waiting, rfl⟩ := List.mem_map.mp member
      refine ⟨List.mem_append_right _ (List.mem_singleton_self _), position_lt
        (accounts.sound.presses.subset ?_)⟩
      unfold PressFates.presses
      exact List.mem_append_right _ waiting
  · rw [List.map_append]
    refine accounts.sound.cancelled_once.append (by cases fates.pending <;> simp) ?_
    intro touch old new
    obtain ⟨entry, member, rfl⟩ := List.mem_map.mp old
    refine fresh entry member ?_
    simp only [List.map_map, List.mem_map, Function.comp_apply] at new
    obtain ⟨_, _, same⟩ := new
    exact same.symm
  · rw [timesOf_append, accounts.sent_presses]
    simp [timesOf]
  · rw [timesOf_append, accounts.sent_taps]
    simp [timesOf]
  · rw [timesOf_append, accounts.sent_pairs]
    simp [timesOf]

/-- An event that is no press or double tap of the button. -/
theorem apart (accounts : fates.Accounts automation device key inputs sent state)
    (clock : ClockReading) {event : Event} (other : ∀ gesture ts,
      event.pressed key = some (gesture, ts) → gesture ≠ .press ∧ gesture ≠ .doubleTap) :
    fates.Accounts automation device key (inputs ++ [(clock, .event event)]) sent state := by
  cases pressed : event.pressed key with
  | none =>
      have unpressed : (Input.event event).pressed key = none := pressed
      exact accounts.untouched (touches_of_unpressed unpressed) (touches_of_unpressed unpressed)
  | some touched =>
      obtain ⟨press, tap⟩ := other touched.1 touched.2 pressed
      have pressed : (Input.event event).pressed key = some (touched.1, touched.2) := pressed
      exact accounts.untouched (touches_of_other pressed press) (touches_of_other pressed tap)

/-- A hold or its end is dispatched. -/
theorem hold (accounts : fates.Accounts automation device key inputs sent state)
    (clock : ClockReading) {event : Event} {gesture : Gesture}
    (pressed : event.pressed key = some (gesture, ts))
    (holds : gesture = .hold ∨ gesture = .holdRelease) :
    fates.Accounts automation device key (inputs ++ [(clock, .event event)])
      (sent ++ [(gesture, ts)]) state := by
  have silent : ∀ kind, kind ≠ .hold → kind ≠ .holdRelease →
      timesOf kind [(gesture, ts)] = [] := by
    intro kind hold release
    rcases holds with rfl | rfl
    · simp [timesOf, hold.symm]
    · simp [timesOf, release.symm]
  have dispatched : fates.Accounts automation device key inputs (sent ++ [(gesture, ts)])
      state := by
    refine { accounts with sent_presses := ?_, sent_taps := ?_, sent_pairs := ?_ }
    · rw [timesOf_append, accounts.sent_presses, silent .press (by decide) (by decide),
        List.append_nil]
    · rw [timesOf_append, accounts.sent_taps, silent .doubleTap (by decide) (by decide),
        List.append_nil]
    · rw [timesOf_append, accounts.sent_pairs, silent .softDoubleTap (by decide) (by decide),
        List.append_nil]
  refine dispatched.apart clock fun kind time same => ?_
  rw [pressed] at same
  cases same
  rcases holds with rfl | rfl
  · decide
  · decide

/-- A double tap after the pending press was dispatched early. -/
theorem late (accounts : fates.Accounts automation device key inputs sent state)
    (pressed : input.pressed key = some (.doubleTap, ts)) {waiting : PendingPress}
    (pending : state.pending = some waiting) (fired : waiting.alreadyFired = true) :
    fates.Accounts automation device key (inputs ++ [(clock, input)]) sent
      { state with pending := none } := by
  have gone := accounts.sound.pending
  rw [pending, Option.filter_some, fired] at gone
  refine { accounts with
    sound := { accounts.sound with presses := ?_, taps := ?_, pending := gone }
    software := fun _ _ none => by cases none }
  · rw [touches_of_other pressed (by decide)]
    exact accounts.sound.presses
  · rw [touches_of_pressed pressed]
    exact accounts.sound.taps.trans (List.sublist_append_left _ _)

/-- A press after the window of the pending one, which is dispatched. -/
theorem overtake (accounts : fates.Accounts automation device key inputs sent state)
    (clock : ClockReading) (env : Env) {event : Event}
    (pressed : event.pressed key = some (.press, ts)) {waiting : PendingPress}
    (software : automation.topology.isHwDoubleTapButton device key.2 = false)
    (pending : state.pending = some waiting) :
    ∃ fates : PressFates, fates.Accounts automation device key (inputs ++ [(clock, .event event)])
      (sent ++ [(.press, waiting.ts)])
      { state with pending := some (env.deferredPress key ts false) } := by
  have press : (Input.event event).pressed key = some (.press, ts) := pressed
  have sends : flushed state.pending = [(.press, waiting.ts)] := by
    simp [flushed, pending, accounts.software software waiting pending]
  obtain ⟨later, settled⟩ := accounts.flush.defer clock
    (env.deferredPress key ts false) press rfl rfl fun _ => rfl
  rw [sends] at settled
  exact ⟨later, by simpa [Env.deferredPress] using settled⟩

/-- The accounts follow the machine of the button. -/
theorem step (accounts : fates.Accounts automation device key inputs sent state)
    (clock : ClockReading) {env : Env}
    (topology : env.topology = automation.topology) (defaults : env.defaults = automation.defaults)
    {event : Event} {after : ButtonState} {more : List (Gesture × Instant)}
    (step : ButtonStep env device key event state after more) :
    ∃ fates : PressFates, fates.Accounts automation device key (inputs ++ [(clock, .event event)])
      (sent ++ more) after := by
  have window : env.deferralWindow =
      Duration.fromSecsF64 automation.defaults.softDoubleTapWindowSeconds := by
    rw [Env.deferralWindow, defaults]
  cases step with
  | rest other =>
      rw [List.append_nil]
      exact ⟨fates, accounts.apart clock fun gesture ts pressed => by
        rw [other] at pressed
        cases pressed⟩
  | flush =>
      exact ⟨fates.flush, accounts.flush.apart clock fun gesture ts pressed => by cases pressed⟩
  | held pressed holds => exact ⟨fates, accounts.hold clock pressed holds⟩
  | synthetic pressed =>
      rw [List.append_nil]
      refine ⟨fates, accounts.apart clock fun gesture ts same => ?_⟩
      rw [pressed] at same
      cases same
      decide
  | lateTap pressed pending fired =>
      rw [List.append_nil]
      exact ⟨fates, accounts.late pressed pending fired⟩
  | tap pressed unfired => exact accounts.tap pressed
  | dropped pressed hardware tapped within =>
      rw [List.append_nil]
      rw [defaults] at within
      exact accounts.drop pressed tapped within
  | @deferred event time state early pressed hardware =>
      rw [← List.append_assoc]
      rw [topology] at hardware
      have press : (Input.event event).pressed key = some (.press, time) := pressed
      exact accounts.flush.defer clock (env.deferredPress key time early) press rfl rfl
        fun software => by rw [hardware] at software; cases software
  | @first event time state pressed software pending =>
      have press : (Input.event event).pressed key = some (.press, time) := pressed
      exact accounts.defer clock (env.deferredPress key time false) press pending rfl fun _ => rfl
  | paired pressed software pending within =>
      rw [topology] at software
      rw [window] at within
      exact accounts.pair pressed software pending within
  | stale pressed software pending =>
      rw [topology] at software
      exact accounts.overtake clock env pressed software pending
  | direct pressed software => exact accounts.direct pressed

end Accounts

end PressFates

/-! ## The button stage of a run -/

namespace Env

variable {env : Env}

/-- What an event does apart from buttons. -/
def otherStage (env : Env) : Event → Emission.Step Runtime Record
  | .buttonPress _ _ _ _ => Emission.silent id
  | .tick ts =>
      Emission.andThen (env.evaluateAtTriggers ts)
        (Emission.andThen (env.performAll [.fireKillSwitches ts, .ageTargets ts])
          (Emission.andThen (env.evaluateActualStaleness ts) env.handleHeatingTick))
  | event => env.handleEvent event

theorem handleEvent_stages (env : Env) (event : Event) (runtime : Runtime) :
    env.handleEvent event runtime =
      andThen (env.buttonStage event) (env.otherStage event) runtime := by
  cases event with
  | buttonPress device button gesture ts =>
      simp [handleEvent, buttonStage, otherStage, andThen]
  | _ => rfl

end Env

/-! ## Executions of timed bindings -/

namespace Operation

/-- The operation executes the timed binding that was noted right before. -/
def fires (noted : Option String) : Operation → Bool
  | execute name _ _ => noted == some name
  | _ => false

end Operation

/-- The operations but for the executions of timed bindings, which follow their notes; `noted` is
the binding that was noted right before them. -/
def untimed : Option String → List Operation → List Operation
  | _, [] => []
  | noted, operation :: rest =>
      (if operation.fires noted then [] else [operation]) ++ untimed operation.noted rest

/-- The timed binding that was noted last. -/
def lastNoted (noted : Option String) (operations : List Operation) : Option String :=
  operations.foldl (fun _ operation => operation.noted) noted

theorem untimed_append (noted : Option String) (first second : List Operation) :
    untimed noted (first ++ second) =
      untimed noted first ++ untimed (lastNoted noted first) second := by
  induction first generalizing noted with
  | nil => rfl
  | cons operation rest ih =>
      rw [List.cons_append, untimed, untimed, ih, List.append_assoc]
      rfl

theorem lastNoted_append (noted : Option String) (first second : List Operation) :
    lastNoted noted (first ++ second) = lastNoted (lastNoted noted first) second :=
  List.foldl_append

/-- Where no timed binding is noted, none is executed. -/
theorem untimed_of_unnoted {operations : List Operation}
    (unnoted : ∀ operation ∈ operations, operation.noted = none) :
    untimed none operations = operations ∧ lastNoted none operations = none := by
  induction operations with
  | nil => exact ⟨rfl, rfl⟩
  | cons operation rest ih =>
      obtain ⟨same, last⟩ := ih fun other member => unnoted other (List.mem_cons_of_mem _ member)
      have here := unnoted operation List.mem_cons_self
      have idle : operation.fires none = false := by
        cases operation <;> rfl
      refine ⟨?_, ?_⟩
      · rw [untimed, idle, here, same]
        rfl
      · rw [lastNoted, List.foldl_cons, here]
        exact last

/-- The operations execute nothing but timed bindings, each right after its note. -/
structure TimedOnly (operations : List Operation) : Prop where
  settled : lastNoted none operations = none
  idle : ∀ operation ∈ untimed none operations, operation.executed = none

namespace TimedOnly

theorem nil : TimedOnly [] := ⟨rfl, by simp [untimed]⟩

theorem append {first second : List Operation} (before : TimedOnly first)
    (after : TimedOnly second) : TimedOnly (first ++ second) := by
  refine ⟨?_, ?_⟩
  · rw [lastNoted_append, before.settled]
    exact after.settled
  · rw [untimed_append, before.settled]
    intro operation member
    rcases List.mem_append.mp member with member | member
    · exact before.idle operation member
    · exact after.idle operation member

/-- A timed binding is noted and executed. -/
theorem fired (binding : String) (time : Nat × Nat) (effect : ResolvedEffect) (ts : Instant) :
    TimedOnly [.noteTimedAction binding time, .execute binding effect ts] := by
  have left : untimed none [.noteTimedAction binding time, .execute binding effect ts] =
      [.noteTimedAction binding time] := by
    simp [untimed, Operation.fires, Operation.noted]
  refine ⟨rfl, fun operation member => ?_⟩
  rw [left, List.mem_singleton] at member
  rw [member]
  rfl

end TimedOnly

/-- Nothing but timed bindings was executed, and what is known of buttons is as before. -/
def Unpressed (known : WorldState) (past : List Record) (runtime : Runtime) : Prop :=
  TimedOnly (past.map (·.operation)) ∧ runtime.world.presses = known.presses

namespace Operation

/-- The operation neither touches what is known of buttons nor executes or notes a binding. -/
def Idle (topology : Topology) (operation : Operation) : Prop :=
  operation.Admissible topology ∧ operation.changesPresses = false ∧ operation.executed = none ∧
    operation.noted = none

end Operation

namespace Env

variable {env : Env} {known : WorldState}

theorem idle_keeps (operation : Operation) (idle : operation.Idle env.topology) :
    Keeps (Unpressed known) (env.perform operation) := by
  obtain ⟨admissible, calm, executes, notes⟩ := idle
  rintro past runtime ⟨timed, same⟩
  refine ⟨?_, (Operation.run_presses admissible calm runtime).trans same⟩
  change TimedOnly ((past ++ [_]).map _)
  rw [List.map_append]
  have single : untimed none [operation] = [operation] ∧ lastNoted none [operation] = none :=
    untimed_of_unnoted fun other member => by rw [List.mem_singleton.mp member, notes]
  refine timed.append ⟨single.2, fun other member => ?_⟩
  rw [List.map_singleton, single.1, List.mem_singleton] at member
  rw [member, executes]

theorem sensing_keeps (operation : Operation) (admissible : operation.Admissible env.topology)
    (follows : operation.followsSensors = true) :
    Keeps (Unpressed known) (env.perform operation) := by
  refine idle_keeps operation ⟨admissible, ?_⟩
  cases operation <;> first | exact ⟨rfl, rfl, rfl⟩ | cases follows

/-- A timed binding is executed right after it was noted, or not at all. -/
theorem evaluateAtTrigger_unpressed {binding : ResolvedBinding}
    (effective : binding ∈ env.effectiveBindings) (ts : Instant) :
    Keeps (Unpressed known) (env.evaluateAtTrigger ts binding) := by
  unfold evaluateAtTrigger
  intro past runtime holds
  split
  · exact Keeps.skip past runtime holds
  · dsimp only
    split_ifs
    · exact Keeps.skip past runtime holds
    · rename_i time _ _ _
      refine ⟨?_, ?_⟩
      · rw [List.map_append, performAll_operations]
        exact holds.1.append (.fired _ _ _ _)
      · have memory : ∀ operation : Operation,
            operation.Admissible env.topology ∧ operation.changesPresses = false →
              Keeps (fun (_ : List Record) (reached : Runtime) =>
                reached.world.presses = known.presses) (env.perform operation) :=
          fun operation kind past reached same =>
            (Operation.run_presses kind.1 kind.2 reached).trans same
        refine performAll_keeps memory (fun operation member => ?_) [] runtime holds.2
        rcases List.mem_pair.mp member with rfl | rfl
        · exact ⟨trivial, rfl⟩
        · exact ⟨Automation.effectiveBindings_provided effective, rfl⟩
    · exact idle_keeps (.clearTimedAction binding.name) ⟨trivial, rfl, rfl, rfl⟩ past runtime holds

/-- The rest of an event leaves what is known of buttons, and executes timed bindings only. -/
theorem otherStage_keeps (env : Env) (event : Event) :
    Keeps (Unpressed known) (env.otherStage event) := by
  cases event with
  | buttonPress device button gesture ts => exact Keeps.skip
  | occupancy sensor occupied illuminance received ts =>
      exact handleOccupancy_keeps sensing_keeps _ _ _ _ _
  | groupState group on ts => exact idle_keeps _ ⟨trivial, rfl, rfl, rfl⟩
  | lightState device on brightness colorTemp colorXy ts =>
      exact idle_keeps _ ⟨trivial, rfl, rfl, rfl⟩
  | plugState device on power ts => exact idle_keeps _ ⟨trivial, rfl, rfl, rfl⟩
  | plugPowerUpdate device watts ts => exact idle_keeps _ ⟨trivial, rfl, rfl, rfl⟩
  | powerMeterState device power energy ts => exact idle_keeps _ ⟨trivial, rfl, rfl, rfl⟩
  | trvState device temperature demand running setpoint operating system battery ts =>
      exact handleHeatingReport_keeps idle_keeps fun config heating => ⟨heating, rfl, rfl, rfl⟩
  | wallThermostatState device relayOn temperature operating ts =>
      exact handleHeatingReport_keeps idle_keeps fun config heating => ⟨heating, rfl, rfl, rfl⟩
  | tick ts =>
      refine Keeps.andThen (Keeps.forEach _ fun binding effective =>
        evaluateAtTrigger_unpressed effective ts) (Keeps.andThen ?_ ?_)
      · refine performAll_keeps idle_keeps fun operation member => ?_
        rcases List.mem_pair.mp member with rfl | rfl
        · exact ⟨trivial, rfl, rfl, rfl⟩
        · exact ⟨trivial, rfl, rfl, rfl⟩
      · exact (evaluateActualStaleness_keeps sensing_keeps ts).andThen
          (handleHeatingTick_keeps idle_keeps fun config heating =>
            ⟨⟨heating, rfl, rfl, rfl⟩, ⟨heating, rfl, rfl, rfl⟩, ⟨heating, rfl, rfl, rfl⟩⟩)

/-- After the button stage an event executes timed bindings only. -/
theorem handleEvent_rest (env : Env) (event : Event) (runtime : Runtime) :
    ∃ rest : List Record,
      (env.handleEvent event runtime).2 = (env.buttonStage event runtime).2 ++ rest ∧
        TimedOnly (rest.map (·.operation)) ∧
          (env.handleEvent event runtime).1.world.presses =
            (env.buttonStage event runtime).1.world.presses := by
  have stages := env.handleEvent_stages event runtime
  obtain ⟨timed, same⟩ := env.otherStage_keeps event [] (env.buttonStage event runtime).1
    ⟨.nil, rfl⟩
  rw [List.nil_append] at timed
  exact ⟨_, congrArg Prod.snd stages, timed, (congrArg (·.1.world.presses) stages).trans same⟩

end Env

/-- The executions of a button's bindings for a gesture; a timed binding may have the name of one,
so the executions that follow a note are left out. -/
def executions (tables : TopologyTables) (device : DeviceIdx) (button : String) (gesture : Gesture)
    (records : List Record) : List Operation :=
  (untimed none (records.map (·.operation))).filter (tables.executesFor device button gesture)

namespace Daemon

variable {daemon after : Daemon} {clock : ClockReading} {input : Input} {records : List Record}

/-- An input is an event, or it leaves what is known of buttons and executes no binding of one. -/
theorem next_presses (taken : daemon.next clock input = some (after, records)) :
    (∃ event, input = .event event ∧
        after.processor.runtime =
          ((daemon.processor.env clock).handleEvent event daemon.processor.runtime).1 ∧
        records = ((daemon.processor.env clock).handleEvent event daemon.processor.runtime).2) ∨
      (∀ event, input ≠ .event event) ∧
        Unpressed daemon.processor.runtime.world records after.processor.runtime := by
  have start : Unpressed daemon.processor.runtime.world [] daemon.processor.runtime :=
    ⟨.nil, rfl⟩
  unfold next at taken
  split at taken
  · cases taken
  · split at taken
    · split at taken
      · cases taken
        exact .inl ⟨_, rfl, rfl, rfl⟩
      · cases taken
    · cases taken
      exact .inr ⟨(fun event same => by cases same), Env.startup_keeps Env.idle_keeps clock.now
        (fun rule listed => ⟨listed, rfl, rfl, rfl⟩) ⟨trivial, rfl, rfl, rfl⟩ [] _ start⟩
    · cases taken
      exact .inl ⟨_, rfl, rfl, rfl⟩
    · split at taken
      · rename_i result accepted
        cases taken
        refine .inr ⟨(fun event same => by cases same), ?_⟩
        unfold EventProcessor.control at accepted
        split at accepted
        · cases accepted
        · cases accepted
        · rename_i automation operations planned _
          cases accepted
          obtain ⟨topology, apart⟩ := Automation.plan_ok planned
          refine Env.performAll_keeps Env.idle_keeps (fun operation member => ?_) [] _ start
          have here := apart operation member
          rw [← topology] at here
          obtain ⟨executes, notes, _⟩ := Automation.plan_unbound planned operation member
          exact ⟨here.1.1, here.2, executes, notes⟩
      · cases taken
        exact .inr ⟨(fun event same => by cases same), start⟩
    · cases taken

/-- No command changes the defaults. -/
theorem next_defaults (taken : daemon.next clock input = some (after, records)) :
    after.processor.automation.defaults = daemon.processor.automation.defaults := by
  unfold next at taken
  split at taken
  · cases taken
  · split at taken
    · split at taken
      · cases taken
        rfl
      · cases taken
    · cases taken
      rfl
    · cases taken
      rfl
    · split at taken
      · rename_i result accepted
        cases taken
        unfold EventProcessor.control at accepted
        split at accepted
        · cases accepted
        · cases accepted
        · rename_i planned _
          cases accepted
          cases Automation.plan_accepts planned with
          | boost boost boosts => cases boost <;> rfl
          | _ => rfl
      · cases taken
        rfl
    · cases taken

theorem play_concat (inputs : List (ClockReading × Input)) (clock : ClockReading) (input : Input)
    (daemon : Daemon) :
    daemon.play (inputs ++ [(clock, input)]) =
      (daemon.play inputs).bind fun reached => (reached.1.next clock input).map fun result =>
        (result.1, reached.2 ++ result.2) := by
  induction inputs generalizing daemon with
  | nil =>
      simp only [List.nil_append, play, Option.bind_some]
      cases daemon.next clock input with
      | none => rfl
      | some result => simp
  | cons entry rest ih =>
      obtain ⟨time, first⟩ := entry
      rw [List.cons_append, play, play]
      cases daemon.next time first with
      | none => rfl
      | some result =>
          obtain ⟨middle, records⟩ := result
          dsimp only
          rw [ih]
          cases middle.play rest with
          | none => rfl
          | some reached => simp [Function.comp_def]

variable {automation : Automation} {now : Instant} {inputs : List (ClockReading × Input)}
  {history : List Record} {device : DeviceIdx} {key : String × String}

/-- What the accounts of a button say of a run so far. -/
structure Accounted (automation : Automation) (device : DeviceIdx) (key : String × String)
    (inputs : List (ClockReading × Input)) (history : List Record) (reached : Daemon) : Prop where
  topology : reached.processor.automation.topology = automation.topology
  defaults : reached.processor.automation.defaults = automation.defaults
  filed : reached.processor.runtime.world.PressesFiled
  settled : lastNoted none (history.map (·.operation)) = none
  accounts : ∃ (fates : PressFates) (sent : List (Gesture × Instant)),
    fates.Accounts automation device key inputs sent
      (reached.processor.runtime.world.buttonAt key) ∧
    ∀ gesture, executions automation.topology.toTopologyTables device key.2 gesture history =
      sent.flatMap fun entry =>
        if entry.1 = gesture then automation.topology.dispatch device key.2 gesture entry.2 else []

/-- What executes timed bindings only executes no binding of a button. -/
theorem executions_append_of_timedOnly (tables : TopologyTables) (button : String)
    (gesture : Gesture) {other : List Record}
    (settled : lastNoted none (history.map (·.operation)) = none)
    (timed : TimedOnly (other.map (·.operation))) :
    executions tables device button gesture (history ++ other) =
      executions tables device button gesture history := by
  unfold executions
  rw [List.map_append, untimed_append, settled, List.filter_append, List.append_right_eq_self,
    List.filter_eq_nil_iff]
  intro operation member executes
  have idle := timed.idle operation member
  cases operation with
  | execute name effect ts => cases idle
  | _ => cases executes

theorem accounted_step (known : automation.topology.deviceIdx key.1 = some device)
    (so : Accounted automation device key inputs history daemon)
    (taken : daemon.next clock input = some (after, records)) :
    Accounted automation device key (inputs ++ [(clock, input)]) (history ++ records) after := by
  obtain ⟨fates, sent, accounts, executed⟩ := so.accounts
  have topology := (next_topology taken).trans so.topology
  have defaults := (next_defaults taken).trans so.defaults
  rcases next_presses taken with ⟨event, rfl, reached, rfl⟩ | ⟨other, timed, same⟩
  · have tables : (daemon.processor.env clock).topology = automation.topology := so.topology
    have here : (daemon.processor.env clock).topology.deviceIdx key.1 = some device := by
      rw [tables, known]
    obtain ⟨steps, performed, of, step⟩ := Env.buttonStage_step here event so.filed
    obtain ⟨rest, split, timed, same⟩ :=
      (daemon.processor.env clock).handleEvent_rest event daemon.processor.runtime
    rw [← reached] at same
    rw [split]
    have unnoted : ∀ operation ∈ steps.flatMap (PressStep.operations
        (daemon.processor.env clock).topology.toTopologyTables), operation.noted = none := by
      intro operation member
      obtain ⟨step, _, member⟩ := List.mem_flatMap.mp member
      exact step.noted_operations operation member
    obtain ⟨whole, last⟩ := untimed_of_unnoted unnoted
    rw [performed] at same ⊢
    refine ⟨topology, defaults, WorldState.pressesFiled_congr same
      (Env.performAll_filed of so.filed), ?_, ?_⟩
    · rw [List.map_append, lastNoted_append, so.settled, List.map_append, lastNoted_append,
        Env.performAll_operations, last]
      exact timed.settled
    · rw [← Env.performAll_steps] at step
      rw [← WorldState.buttonAt_congr same key] at step
      obtain ⟨later, settled⟩ := accounts.step clock so.topology so.defaults step
      refine ⟨later, _, settled, fun gesture => ?_⟩
      have ended : lastNoted none ((history ++ ((daemon.processor.env clock).performAll
          (steps.flatMap (PressStep.operations
            (daemon.processor.env clock).topology.toTopologyTables))
              daemon.processor.runtime).2).map (·.operation)) = none := by
        rw [List.map_append, lastNoted_append, so.settled, Env.performAll_operations, last]
      rw [← List.append_assoc, executions_append_of_timedOnly _ _ _ ended timed, executions,
        List.map_append, untimed_append, so.settled, Env.performAll_operations, whole,
        List.filter_append, tables, PressStep.filter_operations automation.topology.valid,
        List.flatMap_append]
      exact congrArg (· ++ _) (executed gesture)
  · refine ⟨topology, defaults, WorldState.pressesFiled_congr same so.filed, ?_, fates, sent,
      ?_, ?_⟩
    · rw [List.map_append, lastNoted_append, so.settled]
      exact timed.settled
    · rw [WorldState.buttonAt_congr same key]
      have unpressed : input.pressed key = none := by
        cases input with
        | event event => exact absurd rfl (other event)
        | _ => rfl
      exact accounts.untouched (touches_of_unpressed unpressed) (touches_of_unpressed unpressed)
    · intro gesture
      rw [executions_append_of_timedOnly _ _ _ so.settled timed]
      exact executed gesture

theorem accounted (played : (launch automation now).play inputs = some (daemon, history))
    (known : automation.topology.deviceIdx key.1 = some device) :
    Accounted automation device key inputs history daemon := by
  induction inputs using List.reverseRecOn generalizing daemon history with
  | nil =>
      cases played
      refine ⟨rfl, rfl, fun key press stored => by simp [launch] at stored, rfl, {}, [], ?_,
        fun gesture => rfl⟩
      exact PressFates.Accounts.launch automation device key
  | append_singleton inputs last ih =>
      obtain ⟨clock, input⟩ := last
      rw [play_concat] at played
      obtain ⟨⟨reached, past⟩, before, played⟩ := Option.bind_eq_some_iff.mp played
      obtain ⟨⟨final, records⟩, taken, same⟩ := Option.map_eq_some_iff.mp played
      cases same
      exact accounted_step known (ih before) taken

end Daemon

/-! ## Conservation -/

/-- A button event is one that some action string of its device stands for. -/
def Input.Resolvable (tables : TopologyTables) : Input → Prop
  | .event (.buttonPress device button gesture _) =>
      ∃ action idx, tables.resolveButtonEvent device action = some (idx, button, gesture)
  | _ => True

/-- A touch of a button is one that the model of its switch maps. -/
theorem maps_of_touch {tables : TopologyTables} {name button : String} {device : DeviceIdx}
    (known : tables.deviceIdx name = some device) {inputs : List (ClockReading × Input)}
    (resolvable : ∀ entry ∈ inputs, entry.2.Resolvable tables) {gesture : Gesture} {touch : Touch}
    (member : touch ∈ touches (name, button) gesture inputs) :
    ∃ model, tables.switchModelOf device = some model ∧ model.maps button gesture = true := by
  obtain ⟨⟨⟨clock, input⟩, position⟩, inside, found⟩ := List.mem_filterMap.mp member
  obtain ⟨⟨kind, ts⟩, pressed, found⟩ := Option.bind_eq_some_iff.mp found
  split at found
  · rename_i same
    cases same
    have listed : (clock, input) ∈ inputs := List.fst_mem_of_mem_zipIdx inside
    have resolves := resolvable _ listed
    cases input with
    | event event =>
        cases event with
        | buttonPress other button' gesture' ts' =>
            have touched :
                (if (other, button') = (name, button) then some (gesture', ts') else none) =
                  some (kind, ts) := pressed
            split at touched
            · rename_i same
              cases same
              cases touched
              obtain ⟨action, idx, resolved⟩ := resolves
              unfold TopologyTables.resolveButtonEvent at resolved
              rw [known, Option.bind_some] at resolved
              obtain ⟨model, switch, resolved⟩ := Option.bind_eq_some_iff.mp resolved
              obtain ⟨mapping, stored, same⟩ := Option.map_eq_some_iff.mp resolved
              cases same
              refine ⟨model, switch, (OrderedMap.anyValue_eq_true_iff _ _).mpr
                ⟨action, mapping, stored, ?_⟩⟩
              simp
            · cases touched
        | _ => cases pressed
    | _ => cases pressed
  · cases found

/-- The fates account for every press of a button and for everything that was executed for it. -/
structure PressFates.Settles (fates : PressFates) (automation : Automation) (device : DeviceIdx)
    (key : String × String) (inputs : List (ClockReading × Input)) (history : List Record)
    (state : ButtonState) : Prop extends fates.Sound automation key inputs state where
  /-- No press has two fates, or one fate twice. -/
  distinct : fates.presses.Nodup
  /-- The press bindings were executed once for every dispatched press, at its time. -/
  executed_presses :
    executions automation.topology.toTopologyTables device key.2 .press history =
      fates.dispatched.flatMap fun press =>
        automation.topology.dispatch device key.2 .press press.ts
  /-- The double-tap bindings were executed once for every double tap that was not late. -/
  executed_taps :
    executions automation.topology.toTopologyTables device key.2 .doubleTap history =
      fates.taps.flatMap fun tap => automation.topology.dispatch device key.2 .doubleTap tap.ts
  /-- The software double-tap bindings were executed once for every pair, at its second press. -/
  executed_pairs :
    executions automation.topology.toTopologyTables device key.2 .softDoubleTap history =
      fates.paired.flatMap fun pair =>
        automation.topology.dispatch device key.2 .softDoubleTap pair.2.ts

/-- Every press of a button has one fate.  With hardware double taps none is paired; with software
double taps only, none is dropped or cancelled. -/
theorem Daemon.presses_conserved {automation : Automation} {now : Instant}
    {inputs : List (ClockReading × Input)} {daemon : Daemon} {history : List Record}
    (played : (Daemon.launch automation now).play inputs = some (daemon, history)) {name : String}
    {device : DeviceIdx} (known : automation.topology.deviceIdx name = some device)
    (button : String) :
    ∃ fates : PressFates,
      fates.Settles automation device (name, button) inputs history
        (daemon.processor.runtime.world.buttonAt (name, button)) ∧
      (automation.topology.isHwDoubleTapButton device button = true → fates.paired = []) ∧
      ((∀ entry ∈ inputs, entry.2.Resolvable automation.topology.toTopologyTables) →
        automation.topology.isSoftDoubleTapButton device button = true →
        automation.topology.isHwDoubleTapButton device button = false →
          fates.dropped = [] ∧ fates.cancelled = []) := by
  have accounted : Daemon.Accounted automation device (name, button) inputs history daemon :=
    Daemon.accounted played known
  obtain ⟨fates, sent, accounts, executed⟩ := accounted.accounts
  have each : ∀ gesture,
      executions automation.topology.toTopologyTables device button gesture history =
        (timesOf gesture sent).flatMap (automation.topology.dispatch device button gesture) := by
    intro gesture
    rw [executed gesture]
    exact (flatMap_timesOf gesture sent _).symm
  have settled : fates.Settles automation device (name, button) inputs history
      (daemon.processor.runtime.world.buttonAt (name, button)) :=
    { accounts.sound with
      distinct := accounts.sound.presses.nodup_iff.mpr (touches_nodup inputs)
      executed_presses := by rw [each, accounts.sent_presses, List.flatMap_map]
      executed_taps := by rw [each, accounts.sent_taps, List.flatMap_map]
      executed_pairs := by rw [each, accounts.sent_pairs, List.flatMap_map] }
  refine ⟨fates, settled, accounts.hardware, fun resolvable soft software => ?_⟩
  have apart : ∀ press tap, press ∈ fates.presses → tap ∈ fates.taps → False := by
    intro press tap listed tapped
    obtain ⟨model, switch, maps⟩ := maps_of_touch known resolvable
      (accounts.sound.presses.subset listed)
    obtain ⟨model', switch', maps'⟩ := maps_of_touch known resolvable
      (accounts.sound.taps.subset tapped)
    rw [switch] at switch'
    cases switch'
    obtain ⟨binding, bound, triggered⟩ :=
      (automation.topology.valid.soft_double_tap_iff device button).mp soft
    obtain ⟨model', switch', button⟩ :=
      automation.topology.valid.buttons_known binding bound _ _ _ triggered
    rw [switch] at switch'
    cases switch'
    have hardware := (automation.topology.valid.hw_double_tap_iff device _).mpr
      ⟨model, switch, button, maps, maps'⟩
    rw [hardware] at software
    cases software
  constructor
  · refine List.eq_nil_iff_forall_not_mem.mpr fun entry member => ?_
    refine apart entry.1 entry.2 ?_ (accounts.sound.dropped entry member).1
    have inside : entry.1 ∈ fates.dropped.map Prod.fst := List.mem_map_of_mem member
    simp only [PressFates.presses, List.mem_append]
    exact .inl (.inl (.inl (.inr inside)))
  · refine List.eq_nil_iff_forall_not_mem.mpr fun entry member => ?_
    refine apart entry.1 entry.2 ?_ (accounts.sound.cancelled entry member).1
    have inside : entry.1 ∈ fates.cancelled.map Prod.fst := List.mem_map_of_mem member
    simp only [PressFates.presses, List.mem_append]
    exact .inl (.inl (.inr inside))

/-- The house with a software double tap on its switch. -/
def House.tapped : Automation :=
  House.automation .offOnly
    [House.onPress "soft" (.toggle 5 none), House.onDoubleTap "soft" .softDoubleTap (.turnOff 5)]

/-- Three presses: two at once, and one a second later. -/
def House.taps : List (ClockReading × Input) :=
  [(0, .start), House.press "soft" 1, House.press "soft" 1, House.press "soft" 2].map fun entry =>
    (House.clock entry.1, entry.2)

theorem Daemon.presses_conserved_soft : ∃ (daemon : Daemon) (history : List Record)
    (fates : PressFates),
    (Daemon.launch House.tapped 0).play House.taps = some (daemon, history) ∧
    fates.Settles House.tapped 4 ("switch", "soft") House.taps history
      (daemon.processor.runtime.world.buttonAt ("switch", "soft")) ∧
    fates.dropped = [] ∧ fates.cancelled = [] := by
  obtain ⟨⟨daemon, history⟩, played⟩ := Option.isSome_iff_exists.mp (by decide +kernel :
    ((Daemon.launch House.tapped 0).play House.taps).isSome)
  have known : House.tapped.topology.deviceIdx "switch" = some 4 := by decide +kernel
  obtain ⟨fates, settled, _, software⟩ := Daemon.presses_conserved played known "soft"
  refine ⟨daemon, history, fates, played, settled, software ?_ (by decide +kernel)
    (by decide +kernel)⟩
  have resolves : ∀ seconds,
      (House.press "soft" seconds).2.Resolvable House.tapped.topology.toTopologyTables :=
    fun _ => ⟨"soft", 4, by rfl⟩
  intro entry member
  simp only [House.taps, List.map_cons, List.map_nil, List.mem_cons, List.not_mem_nil,
    or_false] at member
  rcases member with rfl | rfl | rfl | rfl
  · trivial
  · exact resolves 1
  · exact resolves 1
  · exact resolves 2

end MqttController
