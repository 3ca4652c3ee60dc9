import MqttController.Reach

/-!
# Stepping back

Stepping back from a step that adds lights to the step before turns these lights off again; from
any other step it turns the whole room off.  The step is that of the cursor, and is inferred from
the lights only without one.
-/

namespace MqttController

open Std

/-- The lights that a step adds to another one. -/
def ResolvedSwitchStep.added (current previous : ResolvedSwitchStep) : List LightEndpoint :=
  current.lights.filter fun light => !previous.lights.contains light

namespace WorldState

variable (world : WorldState)

/-- The position of the cursor of a room in a slot. -/
def cursorIn (name slot : String) : Option Nat :=
  ((world.lightZones[name]?).bind (·.switchCycle)).bind fun cycle =>
    if cycle.slot = slot then some cycle.step else none

/-- A command that turns the room off is in flight. -/
def offInFlight (name : String) : Bool :=
  (world.lightZones[name]?).any fun zone => zone.target.isActionable && !zone.targetIsOn

end WorldState

namespace Env

variable (env : Env)

/-- A step expands the one before with the same scene, and their lights are on: all those of the
step before and some of the added ones. -/
structure Expansion (world : WorldState) (previous current : ResolvedSwitchStep) : Prop where
  same_scene : current.scene.id = previous.scene.id
  keeps : ∀ light ∈ previous.lights, light ∈ current.lights
  base_on : ∀ light ∈ previous.lights, env.lightIsEffectivelyOn world light = true
  added_on : ∃ light ∈ current.added previous, env.lightIsEffectivelyOn world light = true

/-- The step at a position expands the one before by the given lights. -/
def ExpandsBy (world : WorldState) (steps : List ResolvedSwitchStep) (index : Nat)
    (added : List LightEndpoint) : Prop :=
  ∃ previous current, 0 < index ∧ steps[index - 1]? = some previous ∧
    steps[index]? = some current ∧ env.Expansion world previous current ∧
      added = current.added previous

/-- The messages that turn lights of a room off. -/
def offMessages (name : String) (lights : List LightEndpoint) : List Effect :=
  lights.map fun light =>
    .publishLightSet light
      (.off (((env.topology.roomByName name).map (·.offTransitionSeconds)).getD 0))

/-- Exactly the given lights are commanded off. -/
structure TurnsOff (name : String) (lights : List LightEndpoint) (ts : Instant)
    (world : WorldState) (result : WorldState × List Effect) : Prop where
  messages : result.2 = env.offMessages name lights
  commanded : ∀ light ∈ lights, ∃ owner,
    (result.1.lightAt (env.lightName light)).target = .held .off .commanded owner ts
  others : ∀ device, (∀ light ∈ lights, env.lightName light ≠ device) →
    result.1.lightAt device = world.lightAt device

/-- What a step back in a slot is documented to do. -/
structure SteppedDown (name : String) (ts : Instant) (world : WorldState) (slot : String)
    (steps : List ResolvedSwitchStep) : Prop where
  /-- From an expansion, exactly the added lights go off and the cursor moves back. -/
  expansion : ∀ step added, world.cursorIn name slot = some step →
    env.ExpandsBy world steps step added →
      env.TurnsOff name added ts world (env.executeSceneStepDown name ts world) ∧
        (env.executeSceneStepDown name ts world).1.cursorIn name slot = some (step - 1)
  /-- From any other step, the whole room goes off. -/
  other : ∀ step, world.cursorIn name slot = some step →
    (∀ added, ¬ env.ExpandsBy world steps step added) →
      env.executeSceneStepDown name ts world = env.executeTurnOffRoom name ts world
  /-- Without a cursor, the first expansion that the lights show is taken back, unless the room is
  being turned off. -/
  inferred : world.cursorIn name slot = none → world.offInFlight name = false → ∀ step added,
    (∀ earlier < step, ∀ lights, ¬ env.ExpandsBy world steps earlier lights) →
      env.ExpandsBy world steps step added →
        env.TurnsOff name added ts world (env.executeSceneStepDown name ts world)
  /-- Without a cursor, the whole room goes off when the lights show no expansion. -/
  unlit : world.cursorIn name slot = none →
    (world.offInFlight name = true ∨ ∀ step added, ¬ env.ExpandsBy world steps step added) →
      env.executeSceneStepDown name ts world = env.executeTurnOffRoom name ts world

/-! ## The lights a step added -/

variable {env}
variable {world : WorldState} {steps : List ResolvedSwitchStep} {index : Nat}

theorem switchStepDownDelta_eq_some_iff {removed : List LightEndpoint} :
    env.switchStepDownDelta world steps index = some removed ↔
      env.ExpandsBy world steps index removed := by
  unfold switchStepDownDelta
  constructor
  · intro delta
    split at delta
    · rename_i current previous here before
      have positive : 0 < index := by
        by_contra zero
        rw [if_pos (by omega)] at before
        cases before
      rw [if_neg (by omega)] at before
      split at delta
      · rename_i matching
        dsimp only at delta
        split at delta
        · rename_i shown
          cases delta
          simp only [Bool.and_eq_true, List.all_eq_true, List.contains_iff_mem,
            decide_eq_true_eq] at matching
          rw [Bool.and_eq_true, List.any_eq_true] at shown
          exact ⟨previous, current, positive, before, here,
            ⟨matching.1.1, matching.1.2, matching.2, shown.2⟩, rfl⟩
        · cases delta
      · cases delta
    · cases delta
  · rintro ⟨previous, current, positive, before, here, expands, rfl⟩
    rw [here, if_neg (by omega), before]
    have matching : (current.scene.id = previous.scene.id &&
        previous.lights.all (fun light => current.lights.contains light) &&
        previous.lights.all (env.lightIsEffectivelyOn world)) = true := by
      simp only [Bool.and_eq_true, List.all_eq_true, List.contains_iff_mem, decide_eq_true_eq]
      exact ⟨⟨expands.same_scene, expands.keeps⟩, expands.base_on⟩
    have shown : (current.added previous).any (env.lightIsEffectivelyOn world) = true :=
      List.any_eq_true.mpr expands.added_on
    have nonempty : (current.added previous).isEmpty = false := by
      obtain ⟨light, member, _⟩ := expands.added_on
      exact List.isEmpty_eq_false_iff.mpr (List.ne_nil_of_mem member)
    have both : (!(current.added previous).isEmpty &&
        (current.added previous).any (env.lightIsEffectivelyOn world)) = true := by
      rw [nonempty, shown]
      rfl
    dsimp only
    rw [if_pos matching]
    exact if_pos both

theorem isSome_switchStepDownDelta : (env.switchStepDownDelta world steps index).isSome ↔
    ∃ added, env.ExpandsBy world steps index added := by
  rw [Option.isSome_iff_exists]
  exact exists_congr fun _ => switchStepDownDelta_eq_some_iff

theorem ExpandsBy.lt_length {added : List LightEndpoint}
    (expands : env.ExpandsBy world steps index added) : index < steps.length := by
  obtain ⟨_, _, _, _, here, _⟩ := expands
  exact (List.getElem?_eq_some_iff.mp here).1

theorem ExpandsBy.ne_nil {added : List LightEndpoint}
    (expands : env.ExpandsBy world steps index added) : added ≠ [] := by
  obtain ⟨_, _, _, _, _, shown, rfl⟩ := expands
  obtain ⟨light, member, _⟩ := shown.added_on
  exact List.ne_nil_of_mem member

/-! ## The step to go back from -/

/-- The step that is taken back. -/
def stepDownCandidate (env : Env) (world : WorldState) (steps : List ResolvedSwitchStep)
    (cursor : Option Nat) : Option Nat :=
  match cursor.filter fun index => (env.switchStepDownDelta world steps index).isSome with
  | some index => some index
  | none => ((List.range steps.length).filter fun index => decide (1 ≤ index)).find? fun index =>
      (env.switchStepDownDelta world steps index).isSome

theorem stepDownCandidate_cursor {step : Nat} {added : List LightEndpoint}
    (expands : env.ExpandsBy world steps step added) :
    env.stepDownCandidate world steps (some step) = some step := by
  have delta := isSome_switchStepDownDelta.mpr ⟨added, expands⟩
  simp [stepDownCandidate, Option.filter, delta]

theorem stepDownCandidate_other {cursor : Option Nat}
    (other : ∀ step, cursor = some step → ∀ added, ¬ env.ExpandsBy world steps step added) :
    env.stepDownCandidate world steps cursor = env.stepDownCandidate world steps none := by
  cases cursor with
  | none => rfl
  | some step =>
      have delta : (env.switchStepDownDelta world steps step).isSome = false := by
        rw [Bool.eq_false_iff]
        intro some
        obtain ⟨added, expands⟩ := isSome_switchStepDownDelta.mp some
        exact other step rfl added expands
      simp [stepDownCandidate, Option.filter, delta]

theorem stepDownCandidate_none_iff : env.stepDownCandidate world steps none = none ↔
    ∀ step added, ¬ env.ExpandsBy world steps step added := by
  simp only [stepDownCandidate, Option.filter_none, List.find?_eq_none, List.mem_filter,
    List.mem_range, decide_eq_true_eq, isSome_switchStepDownDelta]
  constructor
  · intro none step added expands
    have positive : 1 ≤ step := by
      obtain ⟨_, _, positive, _⟩ := expands
      exact positive
    exact none step ⟨expands.lt_length, positive⟩ ⟨added, expands⟩
  · rintro none step _ ⟨added, expands⟩
    exact none step added expands

theorem stepDownCandidate_inferred {step : Nat}
    (first : env.stepDownCandidate world steps none = some step) :
    (∃ added, env.ExpandsBy world steps step added) ∧
      ∀ earlier < step, ∀ added, ¬ env.ExpandsBy world steps earlier added := by
  have found : ((List.range steps.length).filter fun index => decide (1 ≤ index)).find?
      (fun index => (env.switchStepDownDelta world steps index).isSome) = some step := by
    simpa [stepDownCandidate] using first
  obtain ⟨delta, before, after, parts, unlit⟩ := List.find?_eq_some_iff_append.mp found
  refine ⟨isSome_switchStepDownDelta.mp delta, fun earlier lower added expands => ?_⟩
  have positive : 1 ≤ earlier := by
    obtain ⟨_, _, positive, _⟩ := expands
    exact positive
  have listed : earlier ∈ before ++ step :: after := by
    rw [← parts]
    simpa using ⟨expands.lt_length, positive⟩
  have sorted : (before ++ step :: after).Pairwise (· < ·) := by
    rw [← parts]
    exact List.pairwise_lt_range.filter _
  have earlierListed : earlier ∈ before := by
    rcases List.mem_append.mp listed with early | late
    · exact early
    · rcases List.mem_cons.mp late with same | later
      · omega
      · have above := (List.pairwise_cons.mp (List.pairwise_append.mp sorted).2.1).1 earlier later
        omega
  have shown := isSome_switchStepDownDelta.mpr ⟨added, expands⟩
  simpa [shown] using unlit earlier earlierListed

/-! ## What a step back does -/

/-- Take a step back: command the lights it added off and update the zone. -/
def takeBack (env : Env) (name slot : String) (room : ResolvedRoom) (previous : ResolvedSwitchStep)
    (candidate : Nat) (followsCursor : Bool) (removed : List LightEndpoint) (ts : Instant)
    (world : WorldState) : WorldState × List Effect :=
  ((removed.foldl (env.removeLight ts) world).modifyZone name
      (stepDownZone slot previous candidate followsCursor
        (env.resolveZoneOwner (removed.foldl (env.removeLight ts) world) name .user) ts),
    removed.map fun light => .publishLightSet light (.off room.offTransitionSeconds))

theorem executeSceneStepDown_of_active {name slot : String} {ts : Instant}
    (active : env.activeSwitchSteps name = some (slot, steps)) :
    env.executeSceneStepDown name ts world =
      match env.stepDownCandidate world steps (world.cursorIn name slot) with
      | none => env.executeTurnOffRoom name ts world
      | some candidate =>
          if !decide (world.cursorIn name slot = some candidate) && world.offInFlight name then
            env.executeTurnOffRoom name ts world
          else
            match env.topology.roomByName name, steps[candidate - 1]?,
                env.switchStepDownDelta world steps candidate with
            | some room, some previous, some removed =>
                env.takeBack name slot room previous candidate
                  (decide (world.cursorIn name slot = some candidate)) removed ts world
            | _, _, _ => (world, []) := by
  unfold executeSceneStepDown
  rw [active]
  rfl

theorem room_of_activeSwitchSteps {name slot : String}
    (active : env.activeSwitchSteps name = some (slot, steps)) :
    ∃ room, env.topology.roomByName name = some room := by
  unfold activeSwitchSteps at active
  cases here : env.topology.roomByName name with
  | none =>
      rw [here] at active
      cases active
  | some room => exact ⟨room, rfl⟩

theorem removeLight_foldl (ts : Instant) (removed : List LightEndpoint) (world : WorldState) :
    (∀ light ∈ removed, ∃ owner, ((removed.foldl (env.removeLight ts) world).lightAt
        (env.lightName light)).target = .held .off .commanded owner ts) ∧
      (∀ device, (∀ light ∈ removed, env.lightName light ≠ device) →
        (removed.foldl (env.removeLight ts) world).lightAt device = world.lightAt device) := by
  induction removed generalizing world with
  | nil => exact ⟨by simp, fun _ _ => rfl⟩
  | cons first rest ih =>
      obtain ⟨commanded, others⟩ := ih (env.removeLight ts world first)
      rw [List.foldl_cons]
      constructor
      · intro light member
        by_cases again : ∃ later ∈ rest, env.lightName later = env.lightName light
        · obtain ⟨later, inRest, named⟩ := again
          rw [← named]
          exact commanded later inRest
        · rcases List.mem_cons.mp member with rfl | inRest
          · rw [others _ fun later inRest named => again ⟨later, inRest, named⟩]
            refine ⟨env.resolveLightOwner world light.device .user, ?_⟩
            unfold removeLight
            rw [WorldState.lightAt_modifyLight, if_pos rfl]
            rfl
          · exact absurd ⟨light, inRest, rfl⟩ again
      · intro device apart
        rw [others device fun light inRest => apart light (List.mem_cons_of_mem _ inRest)]
        unfold removeLight
        rw [WorldState.lightAt_modifyLight, if_neg (apart first List.mem_cons_self)]

theorem takeBack_turnsOff {name slot : String} {room : ResolvedRoom} {previous : ResolvedSwitchStep}
    {candidate : Nat} {followsCursor : Bool} {removed : List LightEndpoint} {ts : Instant}
    (here : env.topology.roomByName name = some room) :
    env.TurnsOff name removed ts world
      (env.takeBack name slot room previous candidate followsCursor removed ts world) where
  messages := by
    unfold takeBack offMessages
    rw [here]
    rfl
  commanded := (removeLight_foldl ts removed world).1
  others := (removeLight_foldl ts removed world).2

theorem cursorIn_takeBack {name slot : String} {room : ResolvedRoom} {previous : ResolvedSwitchStep}
    {candidate : Nat} {removed : List LightEndpoint} {ts : Instant} :
    (env.takeBack name slot room previous candidate true removed ts world).1.cursorIn name slot =
      some (candidate - 1) := by
  simp [takeBack, WorldState.cursorIn, WorldState.modifyZone, stepDownZone]

section Active

variable {name slot : String} (ts : Instant)

theorem executeSceneStepDown_back (active : env.activeSwitchSteps name = some (slot, steps))
    {step : Nat} {added : List LightEndpoint}
    (chosen : env.stepDownCandidate world steps (world.cursorIn name slot) = some step)
    (expands : env.ExpandsBy world steps step added)
    (free : world.cursorIn name slot = some step ∨ world.offInFlight name = false) :
    ∃ room previous, env.topology.roomByName name = some room ∧
      env.executeSceneStepDown name ts world = env.takeBack name slot room previous step
        (decide (world.cursorIn name slot = some step)) added ts world := by
  obtain ⟨room, here⟩ := room_of_activeSwitchSteps active
  obtain ⟨previous, _, _, before, _⟩ := id expands
  refine ⟨room, previous, here, ?_⟩
  rw [executeSceneStepDown_of_active active, chosen]
  dsimp only
  rw [if_neg (by rcases free with same | free <;> simp [*]), here, before,
    switchStepDownDelta_eq_some_iff.mpr expands]

theorem executeSceneStepDown_off (active : env.activeSwitchSteps name = some (slot, steps))
    (unguided : ∀ step, world.cursorIn name slot = some step →
      ∀ added, ¬ env.ExpandsBy world steps step added)
    (off : world.offInFlight name = true ∨ ∀ step added, ¬ env.ExpandsBy world steps step added) :
    env.executeSceneStepDown name ts world = env.executeTurnOffRoom name ts world := by
  have inferred := stepDownCandidate_other unguided
  rw [executeSceneStepDown_of_active active, inferred]
  cases chosen : env.stepDownCandidate world steps none with
  | none => rfl
  | some step =>
      obtain ⟨⟨added, expands⟩, _⟩ := stepDownCandidate_inferred chosen
      have inFlight : world.offInFlight name = true :=
        off.resolve_right fun none => none step added expands
      have elsewhere : world.cursorIn name slot ≠ some step :=
        fun same => unguided step same added expands
      dsimp only
      rw [if_pos (by simp [inFlight, elsewhere])]

/-- A step that was inferred is taken back. -/
theorem executeSceneStepDown_inferred (active : env.activeSwitchSteps name = some (slot, steps))
    (unguided : ∀ step, world.cursorIn name slot = some step →
      ∀ added, ¬ env.ExpandsBy world steps step added)
    (free : world.offInFlight name = false) {step : Nat} {added : List LightEndpoint}
    (expands : env.ExpandsBy world steps step added)
    (first : ∀ earlier < step, ∀ lights, ¬ env.ExpandsBy world steps earlier lights) :
    env.TurnsOff name added ts world (env.executeSceneStepDown name ts world) := by
  have chosen : env.stepDownCandidate world steps (world.cursorIn name slot) = some step := by
    rw [stepDownCandidate_other unguided]
    cases found : env.stepDownCandidate world steps none with
    | none => exact absurd expands (stepDownCandidate_none_iff.mp found step added)
    | some other =>
        obtain ⟨⟨lights, lit⟩, unlit⟩ := stepDownCandidate_inferred found
        rcases Nat.lt_trichotomy other step with lower | same | higher
        · exact absurd lit (first other lower lights)
        · rw [same]
        · exact absurd expands (unlit step higher added)
  obtain ⟨room, previous, here, taken⟩ := executeSceneStepDown_back ts active chosen expands
    (.inr free)
  rw [taken]
  exact takeBack_turnsOff here

theorem executeSceneStepDown_cursor (active : env.activeSwitchSteps name = some (slot, steps))
    {step : Nat} {added : List LightEndpoint} (cursor : world.cursorIn name slot = some step)
    (expands : env.ExpandsBy world steps step added) :
    env.TurnsOff name added ts world (env.executeSceneStepDown name ts world) ∧
      (env.executeSceneStepDown name ts world).1.cursorIn name slot = some (step - 1) := by
  have chosen : env.stepDownCandidate world steps (world.cursorIn name slot) = some step := by
    rw [cursor]
    exact stepDownCandidate_cursor expands
  obtain ⟨room, previous, here, taken⟩ := executeSceneStepDown_back ts active chosen expands
    (.inl cursor)
  rw [decide_eq_true cursor] at taken
  rw [taken]
  exact ⟨takeBack_turnsOff here, cursorIn_takeBack⟩

variable {ts}

/-- Turning lights off one by one is not turning the room off. -/
theorem TurnsOff.ne_turnOffRoom {lights : List LightEndpoint}
    {result : WorldState × List Effect} (turned : env.TurnsOff name lights ts world result)
    (some : lights ≠ []) : result ≠ env.executeTurnOffRoom name ts world := by
  intro same
  obtain ⟨first, rest, rfl⟩ := List.exists_cons_of_ne_nil some
  have messages := turned.messages
  rw [same] at messages
  unfold executeTurnOffRoom publishOff offMessages at messages
  split at messages
  · simp at messages
  · simp at messages

end Active

end Env

open Env

/-- A step back does what is documented unless the cursor stands at a step that is no expansion
while the lights show another step that is one. -/
theorem Env.stepped_down_iff {env : Env} {name slot : String} {steps : List ResolvedSwitchStep}
    (active : env.activeSwitchSteps name = some (slot, steps)) (ts : Instant) (world : WorldState) :
    env.SteppedDown name ts world slot steps ↔
      ∀ step, world.cursorIn name slot = some step →
        (∃ added, env.ExpandsBy world steps step added) ∨ world.offInFlight name = true ∨
          ∀ other added, ¬ env.ExpandsBy world steps other added := by
  constructor
  · intro documented step cursor
    by_cases guided : ∃ added, env.ExpandsBy world steps step added
    · exact .inl guided
    · refine .inr ?_
      have unguided : ∀ here, world.cursorIn name slot = some here →
          ∀ added, ¬ env.ExpandsBy world steps here added := by
        intro here same added expands
        rw [cursor] at same
        cases same
        exact guided ⟨added, expands⟩
      have whole := documented.other step cursor (unguided step cursor)
      by_contra misled
      rw [not_or] at misled
      obtain ⟨free, lit⟩ := misled
      push Not at lit
      have found : ∃ other, ∃ added, env.ExpandsBy world steps other added := lit
      classical
      obtain ⟨added, expands⟩ := Nat.find_spec found
      have turned := executeSceneStepDown_inferred ts active unguided
        (Bool.eq_false_iff.mpr free) expands
        fun earlier lower lights lit => Nat.find_min found lower ⟨lights, lit⟩
      exact turned.ne_turnOffRoom expands.ne_nil whole
  · intro guided
    refine ⟨fun step added cursor expands => executeSceneStepDown_cursor ts active cursor expands,
      fun step cursor unexpanded => ?_, fun uncued free step added first expands => ?_,
      fun uncued off => ?_⟩
    · have off := (guided step cursor).resolve_left fun ⟨added, expands⟩ =>
        unexpanded added expands
      refine executeSceneStepDown_off ts active (fun here same => ?_) off
      rw [cursor] at same
      cases same
      exact unexpanded
    · exact executeSceneStepDown_inferred ts active (by simp [uncued]) free expands first
    · exact executeSceneStepDown_off ts active (by simp [uncued]) off

/-- Buttons that step the landing up and down. -/
def House.landingButtons : List ResolvedBinding :=
  [House.onPress "on" (.sceneCycle 1), House.onPress "off" (.sceneStepDown 1)]

/-- After two presses the cursor stands at the step that adds the spot; it is taken back. -/
theorem Env.stepped_down_iff_landing : ∃ (history : List Record) (daemon : Daemon),
    Run history daemon ∧
      daemon.processor.runtime.world.cursorIn "landing" "day" = some 1 ∧
      (daemon.processor.env (House.clock 3)).SteppedDown "landing" (Duration.fromSecs 3)
        daemon.processor.runtime.world "day" House.landingSteps := by
  obtain ⟨daemon, history, run, facts⟩ := House.played_landing House.landingButtons
    [(0, .start), House.press "on" 1, House.press "on" 2]
    (fun reached : Daemon × List Record =>
      let env := reached.1.processor.env (House.clock 3)
      let world := reached.1.processor.runtime.world
      (world.cursorIn "landing" "day", env.activeSwitchSteps "landing",
        env.switchStepDownDelta world House.landingSteps 1))
    (some 1, some ("day", House.landingSteps), some [House.spot]) (by decide +kernel)
  simp only [Prod.mk.injEq] at facts
  obtain ⟨cursor, active, delta⟩ := facts
  refine ⟨history, daemon, run, cursor, (Env.stepped_down_iff active _ _).mpr ?_⟩
  intro step here
  rw [cursor] at here
  cases here
  exact .inl ⟨_, switchStepDownDelta_eq_some_iff.mp delta⟩

/-- The cursor stands at the last step, the spot was turned on elsewhere: only the spot goes off. -/
theorem Env.stepped_down_fails : ∃ (history : List Record) (daemon : Daemon),
    Run history daemon ∧
      (daemon.processor.env (House.clock 7)).activeSwitchSteps "landing" =
        some ("day", House.landingSteps) ∧
      ¬ (daemon.processor.env (House.clock 7)).SteppedDown "landing" (Duration.fromSecs 7)
        daemon.processor.runtime.world "day" House.landingSteps := by
  obtain ⟨daemon, history, run, facts⟩ := House.played_landing House.landingButtons
    [(0, .start), House.press "on" 1, House.press "on" 2, House.press "on" 3,
      (4, .event (.lightState "lamp" true (some 200) none none (Duration.fromSecs 4))),
      (5, .event (.lightState "spot" false none none none (Duration.fromSecs 5))),
      (6, .event (.lightState "spot" true (some 50) none none (Duration.fromSecs 6)))]
    (fun reached : Daemon × List Record =>
      let env := reached.1.processor.env (House.clock 7)
      let world := reached.1.processor.runtime.world
      (env.activeSwitchSteps "landing", decide (world.cursorIn "landing" "day" = some 2 ∧
          (env.switchStepDownDelta world House.landingSteps 2).isSome = false),
        (env.executeSceneStepDown "landing" (Duration.fromSecs 7) world).2,
        (env.executeTurnOffRoom "landing" (Duration.fromSecs 7) world).2))
    (some ("day", House.landingSteps), true,
      [.publishLightSet House.spot (.off 1)], [.publishGroupSet 1 (.off 1)]) (by decide +kernel)
  simp only [Prod.mk.injEq, decide_eq_true_eq] at facts
  obtain ⟨active, ⟨cursor, delta⟩, back, off⟩ := facts
  refine ⟨history, daemon, run, active, fun documented => ?_⟩
  have whole := documented.other 2 cursor fun added expands => by
    rw [isSome_switchStepDownDelta.mpr ⟨added, expands⟩] at delta
    cases delta
  rw [whole, off] at back
  simp at back

end MqttController
