import MqttController.ValveSteps
import MqttController.PumpTimes

/-!
# Open-window detection

A detection cycle of a valve starts when the relay of its zone turns on and when an inhibition of
the valve ends while that relay is on.  Along every run the detection state of a valve is what the
records since the start of the cycle make of it, and a valve is inhibited only for what they show.
-/

namespace MqttController

open Std Emission KeyedChange

/-! ## What detection follows -/

namespace TrvEntity

/-- What open-window detection follows of a valve. -/
structure Window where
  state : OpenWindowState
  lastTempAt : Option Instant
  temperature : Option ℚ

/-- What open-window detection follows of a valve. -/
def window (trv : TrvEntity) : Window :=
  { state := trv.openWindow, lastTempAt := trv.lastTempAt
    temperature := trv.actual.value.bind (·.localTemperature) }

namespace Window

variable (window : Window) (now : Instant)

/-- The last temperature, while it is fresh. -/
def baseline : Option ℚ :=
  if window.lastTempAt.any fun seen => decide (durationSince now seen < staleThreshold) then
    window.temperature
  else none

/-- A detection cycle starts. -/
def started : Window :=
  { window with state := window.state.startDetection now (window.baseline now) }

/-- Detection ends. -/
def stopped : Window := { window with state := {} }

/-- A report with or without a temperature arrives. -/
def sampled (temperature : Option ℚ) : Window :=
  match temperature with
  | none => window
  | some temperature => ⟨window.state.sample temperature, some now, some temperature⟩

/-- The open-window check was made. -/
def judged : Window := { window with state := { window.state with checked := true } }

end Window

@[simp] theorem window_startDetection (trv : TrvEntity) (now : Instant) :
    (trv.startDetection now).window = trv.window.started now := rfl

@[simp] theorem window_relayTurnedOff (trv : TrvEntity) (now : Instant) :
    (trv.relayTurnedOff now).window = trv.window.stopped := by
  unfold relayTurnedOff
  dsimp only
  split
  · rfl
  · rfl

theorem window_expireInhibition (trv : TrvEntity) (relayOn : Bool) (now : Instant) :
    (trv.expireInhibition relayOn now).window =
      if relayOn then trv.window.started now else trv.window.stopped := by
  unfold expireInhibition
  dsimp only
  split
  · rfl
  · rfl

@[simp] theorem window_forceOpen (trv : TrvEntity) (reason : ForceOpenReason) (now : Instant)
    (tickGen : Nat) : (trv.forceOpen reason now tickGen).window = trv.window := rfl

theorem window_followSetpoint (trv : TrvEntity) (reported : Option ℚ) (now : Instant)
    (tickGen : Nat) : (trv.followSetpoint reported now tickGen).window = trv.window := by
  unfold followSetpoint
  split
  · split_ifs
    · rfl
    · rfl
    · rfl
    · rfl
    · rfl
  · rfl

/-- A report of a valve is a sample if it has a temperature. -/
theorem window_observe (trv : TrvEntity) (report : TrvReport) (now : Instant) (tickGen : Nat) :
    (trv.observe report now tickGen).window =
      trv.window.sampled now report.localTemperature := by
  unfold observe
  rw [window_followSetpoint]
  cases measured : report.localTemperature with
  | none =>
      unfold sampleTemperature window Window.sampled TrvActual.merge
      rw [measured]
      cases trv.actual.value with
      | none => rfl
      | some value => rfl
  | some temperature =>
      unfold sampleTemperature window Window.sampled TrvActual.merge
      rw [measured]
      rfl

end TrvEntity

/-! ## What operations make of it -/

namespace Runtime

/-- A change that does the same to the detection of every valve is made to the valves of a zone,
however often they are listed. -/
theorem window_modifyTrvs (change : TrvEntity → TrvEntity)
    (result : TrvEntity.Window → TrvEntity.Window)
    (each : ∀ trv, (change trv).window = result trv.window)
    (again : ∀ window, result (result window) = result window) (trvs : List ZoneTrv)
    (runtime : Runtime) (device : String) :
    ((runtime.modifyTrvs trvs change).world.trvAt device).window =
      if device ∈ trvs.map (·.device) then result (runtime.world.trvAt device).window
      else (runtime.world.trvAt device).window := by
  induction trvs generalizing runtime with
  | nil => rfl
  | cons trv rest ih =>
      have first : ((runtime.modifyTrv trv.device change).world.trvAt device).window =
          if trv.device = device then result (runtime.world.trvAt device).window
          else (runtime.world.trvAt device).window := by
        rw [modifyTrv, WorldState.trvAt_modifyTrv]
        split
        · rename_i same
          rw [each, same]
        · rfl
      have step := ih (runtime.modifyTrv trv.device change)
      rw [first] at step
      rw [modifyTrvs, List.foldl_cons]
      refine step.trans ?_
      by_cases here : trv.device = device
      · subst here
        simp only [List.map_cons, List.mem_cons, true_or, if_true, again, ite_self]
      · have apart : device ≠ trv.device := fun same => here same.symm
        simp only [List.map_cons, List.mem_cons, apart, false_or, if_neg here]

theorem window_relayTurnedOn (runtime : Runtime) (zone : HeatingZone) (count : Nat)
    (temperature : Option ℚ) (now : Instant) (device : String) :
    ((runtime.relayTurnedOn zone count temperature now).world.trvAt device).window =
      if runtime.startupComplete = true ∧ device ∈ zone.trvs.map (·.device) then
        (runtime.world.trvAt device).window.started now
      else (runtime.world.trvAt device).window := by
  have started := window_modifyTrvs (·.startDetection now) (·.started now)
    (fun trv => trv.window_startDetection now) (fun _ => rfl) zone.trvs
    (runtime.modifyHeatingZone zone.name fun entity =>
      { entity.observeRelay true temperature now with relayOnSince := some now }) device
  have complete : (runtime.relayTurnedOn zone count temperature now).world.trvs =
      if runtime.startupComplete then
        ((runtime.modifyHeatingZone zone.name fun entity =>
          { entity.observeRelay true temperature now with
            relayOnSince := some now }).modifyTrvs zone.trvs (·.startDetection now)).world.trvs
      else runtime.world.trvs := by
    unfold relayTurnedOn
    extract_lets observed detecting confirmed
    have ready : observed.startupComplete = runtime.startupComplete := rfl
    have same : detecting.world.trvs = if runtime.startupComplete then
        (observed.modifyTrvs zone.trvs (·.startDetection now)).world.trvs
        else runtime.world.trvs := by
      rw [← ready]
      change (if observed.startupComplete = true then
        observed.modifyTrvs zone.trvs (·.startDetection now) else observed).world.trvs = _
      split
      · rfl
      · rfl
    rw [← same]
    split
    · rfl
    · rfl
  unfold WorldState.trvAt at started ⊢
  rw [complete]
  by_cases ready : runtime.startupComplete = true
  · rw [if_pos ready, started]
    simp only [ready, true_and]
    rfl
  · rw [if_neg ready, if_neg fun started => ready started.1]

theorem window_relayTurnedOff (runtime : Runtime) (zone : HeatingZone) (count : Nat)
    (temperature : Option ℚ) (now : Instant) (device : String) :
    ((runtime.relayTurnedOff zone count temperature now).world.trvAt device).window =
      if device ∈ zone.trvs.map (·.device) then (runtime.world.trvAt device).window.stopped
      else (runtime.world.trvAt device).window := by
  have stopped := window_modifyTrvs (·.relayTurnedOff now) (·.stopped)
    (fun trv => trv.window_relayTurnedOff now) (fun _ => rfl) zone.trvs
    (runtime.modifyHeatingZone zone.name fun entity =>
      { entity.observeRelay false temperature now with relayOnSince := none }) device
  have complete : (runtime.relayTurnedOff zone count temperature now).world.trvs =
      ((runtime.modifyHeatingZone zone.name fun entity =>
        { entity.observeRelay false temperature now with
          relayOnSince := none }).modifyTrvs zone.trvs (·.relayTurnedOff now)).world.trvs := by
    unfold relayTurnedOff
    dsimp only
    split_ifs
    · rfl
    · rfl
  unfold WorldState.trvAt at stopped ⊢
  rw [complete, stopped]
  rfl

/-- What a report of a relay makes of the detection of a valve. -/
theorem window_observeRelay (runtime : Runtime) (zone : HeatingZone) (on : Bool)
    (temperature : Option ℚ) (now : Instant) (device : String) :
    ((runtime.observeRelay zone on temperature now).world.trvAt device).window =
      if runtime.relayOn zone.name ≠ on ∧ device ∈ zone.trvs.map (·.device) then
        if on then
          if runtime.startupComplete then (runtime.world.trvAt device).window.started now
          else (runtime.world.trvAt device).window
        else (runtime.world.trvAt device).window.stopped
      else (runtime.world.trvAt device).window := by
  have repeated (name : String) (firstContact pumpRunning : Bool) (count : Nat)
      (before : Runtime) : (before.relayRepeated name on firstContact pumpRunning count temperature
        now).world.trvAt device = before.world.trvAt device := by
    have same : ValvesBy (fun _ _ => False) before _ :=
      Env.relayRepeated_valves name on firstContact pumpRunning count temperature now before
    exact Steps.eq_of_no_step same fun _ _ => id
  unfold observeRelay
  dsimp only
  split
  · rename_i known
    rw [repeated, if_neg fun changed => changed.1 known]
    rfl
  · rename_i changed
    have changed : ¬ runtime.relayOn zone.name = on := changed
    cases on with
    | true =>
        refine (window_relayTurnedOn _ zone _ temperature now device).trans ?_
        change (if runtime.startupComplete = true ∧ device ∈ zone.trvs.map (·.device) then
          (runtime.world.trvAt device).window.started now
          else (runtime.world.trvAt device).window) = _
        rw [Bool.not_eq_true] at changed
        simp only [changed, ne_eq, reduceCtorEq, not_false_eq_true, true_and, if_true]
        by_cases ready : runtime.startupComplete = true
        · simp only [ready, true_and, if_true]
        · simp only [ready, false_and, if_false, Bool.false_eq_true, ite_self]
    | false =>
        refine (window_relayTurnedOff _ zone _ temperature now device).trans ?_
        change (if device ∈ zone.trvs.map (·.device) then
          (runtime.world.trvAt device).window.stopped
          else (runtime.world.trvAt device).window) = _
        rw [Bool.not_eq_false] at changed
        simp only [changed, ne_eq, reduceCtorEq, not_false_eq_true, true_and, if_false]

end Runtime

namespace Runtime

theorem any_isRelayOn (runtime : Runtime) (name : String) :
    (runtime.world.heatingZones[name]?).any (·.isRelayOn) = runtime.relayOn name := by
  rw [Bool.eq_iff_iff, runtime.relayOn_eq_true_iff, Option.any_eq_true]

end Runtime

namespace TrvEntity

/-- The end of a due inhibition. -/
def expired (trv : TrvEntity) (relayOn : Bool) (now : Instant) : TrvEntity :=
  if trv.inhibitionExpired now then trv.expireInhibition relayOn now else trv

theorem inhibitionExpired_expired (trv : TrvEntity) (relayOn : Bool) (now : Instant) :
    (trv.expired relayOn now).inhibitionExpired now = false := by
  unfold expired
  split
  · unfold expireInhibition
    dsimp only
    split
    · rfl
    · rfl
  · rename_i due
    simpa using due

/-- Ending a due inhibition again does nothing. -/
theorem expired_expired (trv : TrvEntity) (relayOn : Bool) (now : Instant) :
    (trv.expired relayOn now).expired relayOn now = trv.expired relayOn now := by
  have settled := trv.inhibitionExpired_expired relayOn now
  generalize trv.expired relayOn now = after at settled
  rw [expired, settled]
  rfl

end TrvEntity

namespace Env

variable {env : Env} {config : HeatingConfig} {zone : HeatingZone} {device : String}

/-- An inhibition ends once, however often the valve is listed. -/
theorem expired_once {items : List (HeatingZone × ZoneTrv)} (here : ∀ item ∈ items, item.1 = zone)
    (some : items ≠ []) (entry : NameMap HeatingZoneEntity × TrvEntity) :
    (items.foldl (fun entry (item : HeatingZone × ZoneTrv) =>
      (entry.1, entry.2.expired ((entry.1[item.1.name]?).any (·.isRelayOn)) env.clock.now))
        entry).2 =
      entry.2.expired ((entry.1[zone.name]?).any (·.isRelayOn)) env.clock.now := by
  induction items generalizing entry with
  | nil => exact absurd rfl some
  | cons first rest ih =>
      rw [List.foldl_cons, here first List.mem_cons_self]
      by_cases last : rest = []
      · rw [last]
        rfl
      · rw [ih (fun item inside => here item (List.mem_cons_of_mem _ inside)) last,
          TrvEntity.expired_expired]

/-- The inhibition of a valve ends when it is due. -/
theorem trvAt_expireInhibitions (valid : config.Valid) (listed : zone ∈ config.zones)
    (member : device ∈ zone.trvs.map (·.device)) (runtime : Runtime) :
    (env.expireInhibitions config runtime).world.trvAt device =
      (runtime.world.trvAt device).expired (runtime.relayOn zone.name) env.clock.now := by
  have flat : env.expireInhibitions config runtime =
      (config.zones.flatMap fun zone => zone.trvs.map (zone, ·)).foldl
        (fun runtime item => env.expireInhibitionOf item.1 runtime item.2) runtime := by
    rw [List.foldl_flatMap]
    simp only [List.foldl_map]
    rfl
  have folded := foldl_at_key
    (fun (runtime : Runtime) name => (runtime.world.heatingZones, runtime.world.trvAt name))
    (fun runtime (item : HeatingZone × ZoneTrv) => env.expireInhibitionOf item.1 runtime item.2)
    (fun item => item.2.device)
    (fun item entry =>
      (entry.1, entry.2.expired ((entry.1[item.1.name]?).any (·.isRelayOn)) env.clock.now))
    (by
      intro runtime item other
      change (runtime.world.heatingZones, (runtime.world.modifyTrv item.2.device
        (·.expired ((runtime.world.heatingZones[item.1.name]?).any (·.isRelayOn))
          env.clock.now)).trvAt other) = _
      rw [WorldState.trvAt_modifyTrv]
      by_cases same : item.2.device = other
      · rw [if_pos same, if_pos same, same]
      · rw [if_neg same, if_neg same])
    (config.zones.flatMap fun zone => zone.trvs.map (zone, ·)) runtime device
  -- The valve is listed in this zone only, and once its inhibition ended nothing more is due.
  have here : ∀ item ∈ (config.zones.flatMap fun zone => zone.trvs.map (zone, ·)).filter
      (fun item => decide (item.2.device = device)), item.1 = zone := by
    intro item inside
    obtain ⟨entry, same⟩ := List.mem_filter.mp inside
    obtain ⟨other, known, there⟩ := List.mem_flatMap.mp entry
    obtain ⟨trv, inOther, rfl⟩ := List.mem_map.mp there
    refine HeatingConfig.zone_of_trv_unique valid known listed
      (List.mem_map.mpr ⟨trv, inOther, rfl⟩) ?_
    rw [of_decide_eq_true same]
    exact member
  have some' : (config.zones.flatMap fun zone => zone.trvs.map (zone, ·)).filter
      (fun item => decide (item.2.device = device)) ≠ [] := by
    obtain ⟨trv, inside, rfl⟩ := List.mem_map.mp member
    exact List.ne_nil_of_mem (List.mem_filter.mpr ⟨List.mem_flatMap.mpr
      ⟨zone, listed, List.mem_map.mpr ⟨trv, inside, rfl⟩⟩, decide_eq_true rfl⟩)
  rw [flat]
  refine (congrArg Prod.snd folded).trans ?_
  rw [← runtime.any_isRelayOn zone.name]
  exact expired_once here some' _

theorem trvAt_beginHeatingTick (valid : config.Valid) (listed : zone ∈ config.zones)
    (member : device ∈ zone.trvs.map (·.device)) (runtime : Runtime) :
    (env.beginHeatingTick config runtime).1.world.trvAt device =
      (runtime.world.trvAt device).expired (runtime.relayOn zone.name) env.clock.now := by
  obtain ⟨ready, same, ends⟩ := env.beginHeatingTick_expires config runtime
  have expired := @trvAt_expireInhibitions env config zone device valid listed member ready
  unfold Runtime.relayOn at expired ⊢
  rw [same] at expired
  rw [← expired]
  unfold WorldState.trvAt
  rw [ends]

end Env

/-! ## Valve control -/

namespace TrvEntity

/-- A valve was told something, which detection waits for. -/
def Told (now : Instant) (trv after : TrvEntity) : Prop :=
  after.window = trv.window ∧ after.isInhibited now = false ∧ after.Blocked

theorem told_of_steps {now : Instant} {trv after : TrvEntity}
    (steps : Relation.ReflTransGen (Told now) trv after) : after = trv ∨ Told now trv after := by
  induction steps with
  | refl => exact .inl rfl
  | tail _ last ih =>
      right
      rcases ih with rfl | told
      · exact last
      · exact ⟨last.1.trans told.1, last.2⟩

theorem told_forceOpen (now : Instant) (trv : TrvEntity) (reason : ForceOpenReason)
    (tickGen : Nat) : Told now trv (trv.forceOpen reason now tickGen) :=
  ⟨rfl, rfl, .inl rfl⟩

theorem told_releaseForce (now : Instant) (trv : TrvEntity) :
    Told now trv (trv.releaseForce now) :=
  ⟨rfl, rfl, blocked_releaseForce trv now⟩

theorem told_commandSetpoint (now : Instant) (trv : TrvEntity) (temperature : ℚ) (owner : Owner)
    (tickGen : Nat) : Told now trv (trv.commandSetpoint temperature owner now tickGen) :=
  ⟨rfl, rfl, .inr ⟨rfl, temperature, rfl⟩⟩

/-- What open-window detection does to a valve of a zone, given what is known of the relays. -/
inductive Detects (env : Env) (config : HeatingConfig) (zones : NameMap HeatingZoneEntity)
    (device : String) : TrvEntity → TrvEntity → Prop
  | judged {trv : TrvEntity} (unchecked : trv.openWindow.checked = false) :
      Detects env config zones device trv trv.checked
  | inhibited {trv : TrvEntity} {zone : HeatingZone} {entity : HeatingZoneEntity}
      {since start last : Instant} {baseline : ℚ} (stop : Instant) (tickGen : Nat)
      (listed : zone ∈ config.zones) (member : device ∈ zone.trvs.map (·.device))
      (stored : zones[zone.name]? = some entity) (on : entity.isRelayOn = true)
      (turnedOn : entity.relayOnSince = some since)
      (long : config.openWindow.detection ≤ durationSince env.clock.now since)
      (demand : trv.hasEffectiveDemand env.clock.now config.heatPump.minDemandPercent
        config.heatPump.minDemandPercentFallback = true)
      (unchecked : trv.openWindow.checked = false)
      (based : trv.openWindow.tempAtRelayOn = some baseline)
      (started : trv.openWindow.baselineEstablishedAt = some start)
      (sampled : trv.lastTempAt = some last) (later : start < last)
      (cold : trv.openWindow.tempHighWater.getD baseline ≤ baseline + 1 / 10) :
      Detects env config zones device trv (trv.checked.inhibit stop env.clock.now tickGen)

/-- A valve is judged at most once. -/
theorem detects_of_steps {env : Env} {config : HeatingConfig} {zones : NameMap HeatingZoneEntity}
    {device : String} {trv after : TrvEntity}
    (steps : Relation.ReflTransGen (Detects env config zones device) trv after) :
    after = trv ∨ Detects env config zones device trv after := by
  have once : ∀ {first second third : TrvEntity}, Detects env config zones device first second →
      ¬ Detects env config zones device second third := by
    intro first second third early late
    have checked : second.openWindow.checked = true := by cases early <;> rfl
    have unchecked : second.openWindow.checked = false := by cases late <;> assumption
    rw [checked] at unchecked
    cases unchecked
  induction steps with
  | refl => exact .inl rfl
  | tail _ last ih =>
      rcases ih with rfl | detects
      · exact .inr last
      · exact absurd last (once detects)

end TrvEntity

namespace Env

variable {env : Env} {config : HeatingConfig} {zones : NameMap HeatingZoneEntity}

/-- Detection follows what is known of the relays, and leaves that alone. -/
def Detecting (env : Env) (config : HeatingConfig) (zones : NameMap HeatingZoneEntity)
    (before after : Runtime) : Prop :=
  before.world.heatingZones = zones → after.world.heatingZones = zones ∧
    Steps (TrvEntity.Detects env config zones) before.world.trvAt after.world.trvAt

namespace Detecting

theorem refl (runtime : Runtime) : Detecting env config zones runtime runtime :=
  fun known => ⟨known, .refl _ _⟩

theorem trans (first second third : Runtime) (early : Detecting env config zones first second)
    (late : Detecting env config zones second third) :
    Detecting env config zones first third := by
  intro known
  obtain ⟨known, before⟩ := early known
  obtain ⟨known, after⟩ := late known
  exact ⟨known, before.trans after⟩

theorem modifyTrv {runtime : Runtime} {device : String} {change : TrvEntity → TrvEntity}
    (taken : runtime.world.heatingZones = zones →
      TrvEntity.Detects env config zones device (runtime.world.trvAt device)
        (change (runtime.world.trvAt device))) :
    Detecting env config zones runtime (runtime.modifyTrv device change) :=
  fun known => ⟨known, .update (taken known)
    fun other => runtime.world.trvAt_modifyTrv device other change⟩

end Detecting

theorem detectOpenWindow_detects {zone : HeatingZone} {trv : ZoneTrv} {entity : HeatingZoneEntity}
    {since : Instant} (listed : zone ∈ config.zones) (member : trv ∈ zone.trvs)
    (stored : zones[zone.name]? = some entity) (on : entity.isRelayOn = true)
    (turnedOn : entity.relayOnSince = some since)
    (long : config.openWindow.detection ≤ durationSince env.clock.now since) (runtime : Runtime) :
    Detecting env config zones runtime (env.detectOpenWindow config since trv runtime).1 := by
  unfold detectOpenWindow
  dsimp only
  split
  · exact .refl _
  · rename_i valve here
    have same := trvAt_of_stored here
    split
    · exact .refl _
    · rename_i open'
      have unchecked : valve.openWindow.checked = false := by
        simp only [Bool.or_eq_true, not_or, Bool.not_eq_true] at open'
        exact open'.1.1
      have judged : Detecting env config zones runtime (runtime.modifyTrv trv.device (·.checked)) :=
        .modifyTrv fun _ => .judged (by rw [same, unchecked])
      split
      · exact judged
      · rename_i asks
        have demand : valve.hasEffectiveDemand env.clock.now config.heatPump.minDemandPercent
            config.heatPump.minDemandPercentFallback = true := by simpa using asks
        split
        · split
          · exact judged
          · exact .refl _
        · exact .refl _
        · rename_i baseline start based started
          split
          · split
            · exact judged
            · exact .refl _
          · rename_i enough
            split
            · rename_i cold
              rw [Bool.or_eq_true, not_or, Bool.not_eq_true, Bool.not_eq_false'] at enough
              obtain ⟨last, sampled, later⟩ := (Option.any_eq_true _ _).mp enough.1
              refine .modifyTrv fun _ => ?_
              rw [same]
              exact .inhibited _ _ listed (List.mem_map.mpr ⟨trv, member, rfl⟩) stored on turnedOn
                long demand unchecked based started sampled (of_decide_eq_true later)
                (of_decide_eq_true cold)
            · exact judged

theorem detectOpenWindows_detects (config : HeatingConfig) (runtime : Runtime) :
    Steps (TrvEntity.Detects env config runtime.world.heatingZones) runtime.world.trvAt
      (env.detectOpenWindows config runtime).1.world.trvAt := by
  have each : ∀ zone ∈ config.zones, ∀ before,
      Detecting env config runtime.world.heatingZones before
        (env.detectOpenWindowsIn config zone before).1 := by
    intro zone listed before known
    unfold detectOpenWindowsIn
    rw [known]
    split
    · exact ⟨known, .refl _ _⟩
    · rename_i entity stored
      split
      · exact ⟨known, .refl _ _⟩
      · rename_i since turnedOn
        split
        · rename_i ripe
          rw [Bool.and_eq_true, decide_eq_true_eq] at ripe
          exact forEach_related Detecting.refl Detecting.trans (fun trv member =>
            detectOpenWindow_detects listed member stored ripe.1 turnedOn ripe.2) before known
        · exact ⟨known, .refl _ _⟩
  exact (forEach_related Detecting.refl Detecting.trans each runtime rfl).2

theorem enforcePressureGroups_zones (config : HeatingConfig) (runtime : Runtime) :
    (env.enforcePressureGroups config runtime).1.world.heatingZones =
      runtime.world.heatingZones := by
  have each : ∀ active device, Leaves (fun runtime : Runtime => runtime.world.heatingZones)
      (fun _ => True) (env.enforceOn active device) := by
    intro active device runtime
    refine ⟨?_, by simp⟩
    unfold enforceOn
    dsimp only
    split
    · rfl
    · split_ifs
      · rfl
      · rfl
      · rfl
      · rfl
  have group : ∀ group : PressureGroup, Leaves (fun runtime : Runtime => runtime.world.heatingZones)
      (fun _ => True) fun runtime : Runtime =>
        forEach (env.enforceOn (env.groupActive config group runtime.world)) group.trvs runtime :=
    fun group runtime => Leaves.forEach (each _) group.trvs runtime
  exact (Leaves.forEach group config.pressureGroups runtime).1

theorem evaluateSchedules_zones (config : HeatingConfig) (runtime : Runtime) :
    (env.evaluateSchedules config runtime).1.world.heatingZones = runtime.world.heatingZones := by
  have each : ∀ trv, Leaves (fun runtime : Runtime => runtime.world.heatingZones)
      (fun _ => True) (env.evaluateSchedule config trv) := by
    intro trv runtime
    refine ⟨?_, by simp⟩
    unfold evaluateSchedule
    dsimp only
    split
    · rfl
    · split
      · split_ifs
        · rfl
        · rfl
      · split_ifs
        · rfl
        · rfl
  exact (Leaves.forEach each _ runtime).1

/-- What valve control does to a valve: the valve is left alone or told something, or detection
judges it. -/
theorem controlValves_cases (env : Env) (config : HeatingConfig) {runtime : Runtime}
    {device : String} {trv after : TrvEntity} (before : runtime.world.trvAt device = trv)
    (controlled : (env.controlValves config runtime).1.world.trvAt device = after) :
    after = trv ∨ TrvEntity.Told env.clock.now trv after ∨
      (∃ middle, TrvEntity.Told env.clock.now trv middle ∧
        middle.openWindow.checked = false ∧ after = middle.checked) ∨
        TrvEntity.Detects env config runtime.world.heatingZones device trv after := by
  have told : Runtime.ValvesBy (TrvEntity.Told env.clock.now) runtime
      (env.evaluateSchedules config (env.enforcePressureGroups config runtime).1).1 :=
    (enforcePressureGroups_valves (TrvEntity.told_forceOpen _) (TrvEntity.told_releaseForce _)
      config runtime).trans
      (evaluateSchedules_valves (TrvEntity.told_commandSetpoint _) config _)
  have detects := env.detectOpenWindows_detects config
    (env.evaluateSchedules config (env.enforcePressureGroups config runtime).1).1
  rw [evaluateSchedules_zones, enforcePressureGroups_zones] at detects
  have detects := detects device
  have told := TrvEntity.told_of_steps (told device)
  have final : (env.detectOpenWindows config (env.evaluateSchedules config
      (env.enforcePressureGroups config runtime).1).1).1.world.trvAt device = after := controlled
  rw [final] at detects
  rw [before] at told
  generalize (env.evaluateSchedules config
    (env.enforcePressureGroups config runtime).1).1.world.trvAt device = middle at detects told
  rcases TrvEntity.detects_of_steps detects with rfl | detected
  · rcases told with same | held
    · exact .inl same
    · exact .inr (.inl held)
  · rcases told with rfl | held
    · exact .inr (.inr (.inr detected))
    · refine .inr (.inr (.inl ⟨middle, held, ?_⟩))
      -- A valve that was told something has no effective demand, so it is only judged.
      cases detected with
      | judged unchecked => exact ⟨unchecked, rfl⟩
      | inhibited _ _ _ _ _ _ _ _ demand =>
          rw [held.2.2.not_effective] at demand
          cases demand

end Env

/-! ## Detection along a run -/

namespace Record

variable (record : Record) (device : String)

/-- The temperature that a valve reports, and when. -/
def sample : Option (ℚ × Instant) :=
  ((record.operation.trvReport device).bind (·.localTemperature)).map fun temperature =>
    (temperature, record.env.clock.now)

/-- The relay of the zone of a valve turns on, or an inhibition of the valve ends while it is on. -/
def StartsDetection : Prop :=
  (∃ zone, record.operation.relayReport = some (zone, true) ∧ device ∈ zone.trvs.map (·.device) ∧
    record.before.relayOn zone.name = false ∧ record.before.startupComplete = true) ∨
  ∃ config, record.operation = .beginHeatingTick config ∧ ∃ zone ∈ config.zones,
    device ∈ zone.trvs.map (·.device) ∧ record.before.relayOn zone.name = true ∧
      (record.before.world.trvAt device).inhibitionExpired record.env.clock.now = true

/-- The relay of the zone of a valve turns off, or an inhibition of the valve ends while it is
off. -/
def StopsDetection : Prop :=
  (∃ zone, record.operation.relayReport = some (zone, false) ∧ device ∈ zone.trvs.map (·.device) ∧
    record.before.relayOn zone.name = true) ∨
  ∃ config, record.operation = .beginHeatingTick config ∧ ∃ zone ∈ config.zones,
    device ∈ zone.trvs.map (·.device) ∧ record.before.relayOn zone.name = false ∧
      (record.before.world.trvAt device).inhibitionExpired record.env.clock.now = true

/-- Detection judges a valve. -/
def Judges : Prop :=
  (record.before.world.trvAt device).openWindow.checked = false ∧
    (record.after.world.trvAt device).openWindow.checked = true

/-- A valve becomes inhibited. -/
def Inhibits : Prop :=
  (record.before.world.trvAt device).isInhibited record.env.clock.now = false ∧
    (record.after.world.trvAt device).isInhibited record.env.clock.now = true

end Record

/-- What a record makes of the detection of a valve. -/
inductive WindowChange (record : Record) (device : String) (before after : TrvEntity.Window) : Prop
  | starts (starts : record.StartsDetection device) (silent : record.sample device = none)
      (result : after = before.started record.env.clock.now)
  | stops (stops : record.StopsDetection device) (silent : record.sample device = none)
      (result : after = before.stopped)
  | follows (unstarted : ¬ record.StartsDetection device)
      (unstopped : ¬ record.StopsDetection device)
      (result : after = before.sampled record.env.clock.now
        ((record.operation.trvReport device).bind (·.localTemperature)))
  | judges (unstarted : ¬ record.StartsDetection device)
      (unstopped : ¬ record.StopsDetection device) (silent : record.sample device = none)
      (unchecked : before.state.checked = false) (result : after = before.judged)

namespace Record

variable {record : Record} {device : String}

/-- Detection starts and stops with the relay and on heating ticks only. -/
theorem detection_kept (silent : record.operation.relayReport = none)
    (apart : ∀ config, record.operation ≠ .beginHeatingTick config) :
    ¬ record.StartsDetection device ∧ ¬ record.StopsDetection device := by
  constructor
  · rintro (⟨zone, report, _⟩ | ⟨config, begins, _⟩)
    · rw [silent] at report
      cases report
    · exact apart config begins
  · rintro (⟨zone, report, _⟩ | ⟨config, begins, _⟩)
    · rw [silent] at report
      cases report
    · exact apart config begins

end Record

namespace WindowChange

variable {env : Env} {before : Runtime} {device : String}

/-- Apart from relays, valves and the start of a tick, what keeps the window keeps the detection. -/
theorem of_kept {operation : Operation} (silent : operation.relayReport = none)
    (apart : ∀ config, operation ≠ .beginHeatingTick config)
    (unreported : operation.trvReport device = none)
    (kept : ((operation.run env before).1.world.trvAt device).window =
      (before.world.trvAt device).window) :
    WindowChange ⟨env, before, operation⟩ device (before.world.trvAt device).window
      ((operation.run env before).1.world.trvAt device).window := by
  have still : ¬ Record.StartsDetection ⟨env, before, operation⟩ device ∧
      ¬ Record.StopsDetection ⟨env, before, operation⟩ device :=
    Record.detection_kept silent apart
  refine .follows still.1 still.2 ?_
  dsimp only
  rw [unreported]
  exact kept

/-- A report that is about the relay of a zone. -/
theorem of_relay {config : HeatingConfig} {other : String} {zone : HeatingZone} {on : Bool}
    {temperature : Option ℚ} {mode : Option String} (found : config.zoneOfRelay other = some zone) :
    WindowChange ⟨env, before, .observeThermostat config other (some on) temperature mode⟩ device
      (before.world.trvAt device).window
      ((env.handleWallThermostatState config other (some on) temperature mode before).world.trvAt
        device).window := by
  have report : (Operation.observeThermostat config other (some on) temperature
      mode).relayReport = some (zone, on) := by
    simp [Operation.relayReport, found]
  have after := (before.modifyHeatingZone zone.name fun entity =>
    { entity with
      wtLastSeen := some env.clock.now
      wtOperatingMode := mode.or entity.wtOperatingMode }).window_observeRelay zone on
        temperature env.clock.now device
  have relays : (before.modifyHeatingZone zone.name fun entity =>
      { entity with
        wtLastSeen := some env.clock.now
        wtOperatingMode := mode.or entity.wtOperatingMode }).relayOn zone.name =
      before.relayOn zone.name := by
    rw [Runtime.relayOn_modifyHeatingZone, if_pos rfl]
    rfl
  rw [relays] at after
  unfold Env.handleWallThermostatState
  rw [found]
  dsimp only
  rw [after]
  by_cases changed : before.relayOn zone.name ≠ on ∧ device ∈ zone.trvs.map (·.device)
  · rw [if_pos changed]
    cases on with
    | true =>
        have off := Bool.eq_false_iff.mpr changed.1
        rw [if_pos rfl]
        by_cases ready : before.startupComplete = true
        · exact .starts (.inl ⟨zone, report, changed.2, off, ready⟩) rfl (if_pos ready)
        · refine .follows ?_ ?_ (if_neg ready)
          · rintro (⟨_, _, _, _, complete⟩ | ⟨_, begins, _⟩)
            · exact ready complete
            · cases begins
          · rintro (⟨_, stops, _⟩ | ⟨_, begins, _⟩)
            · rw [report] at stops
              cases stops
            · cases begins
    | false =>
        have lit : before.relayOn zone.name = true := by simpa using changed.1
        exact .stops (.inl ⟨zone, report, changed.2, lit⟩) rfl rfl
  · rw [if_neg changed]
    refine .follows ?_ ?_ rfl
    · rintro (⟨_, starts, member, off, _⟩ | ⟨_, begins, _⟩)
      · rw [report] at starts
        cases starts
        exact changed ⟨by rw [off]; decide, member⟩
      · cases begins
    · rintro (⟨_, stops, member, lit⟩ | ⟨_, begins, _⟩)
      · rw [report] at stops
        cases stops
        exact changed ⟨by rw [lit]; decide, member⟩
      · cases begins

/-- A report of a thermostat. -/
theorem of_thermostat {config : HeatingConfig} {other : String} {relayOn : Option Bool}
    {temperature : Option ℚ} {mode : Option String} :
    WindowChange ⟨env, before, .observeThermostat config other relayOn temperature mode⟩ device
      (before.world.trvAt device).window
      ((env.handleWallThermostatState config other relayOn temperature mode before).world.trvAt
        device).window := by
  have kept (silent : (Operation.observeThermostat config other relayOn temperature
      mode).relayReport = none) (same : (env.handleWallThermostatState config other relayOn
        temperature mode before).world.trvs = before.world.trvs) :
      WindowChange ⟨env, before, .observeThermostat config other relayOn temperature mode⟩ device
        (before.world.trvAt device).window
        ((env.handleWallThermostatState config other relayOn temperature mode before).world.trvAt
          device).window := by
    refine of_kept silent (fun _ same => by cases same) rfl ?_
    change ((env.handleWallThermostatState config other relayOn temperature mode
      before).world.trvAt device).window = _
    unfold WorldState.trvAt
    rw [same]
  cases found : config.zoneOfRelay other with
  | none =>
      refine kept ?_ ?_
      · cases relayOn with
        | none => rfl
        | some on => simp [Operation.relayReport, found]
      · unfold Env.handleWallThermostatState
        rw [found]
  | some zone =>
      cases relayOn with
      | none =>
          refine kept rfl ?_
          unfold Env.handleWallThermostatState
          rw [found]
          rfl
      | some on => exact of_relay found

/-- The start of a heating tick. -/
theorem of_tick {config : HeatingConfig} {zone : HeatingZone} (valid : config.Valid)
    (listed : zone ∈ config.zones) (member : device ∈ zone.trvs.map (·.device)) :
    WindowChange ⟨env, before, .beginHeatingTick config⟩ device (before.world.trvAt device).window
      ((env.beginHeatingTick config before).1.world.trvAt device).window := by
  rw [Env.trvAt_beginHeatingTick valid listed member]
  unfold TrvEntity.expired
  by_cases due : (before.world.trvAt device).inhibitionExpired env.clock.now = true
  · rw [if_pos due, TrvEntity.window_expireInhibition]
    cases on : before.relayOn zone.name with
    | true => exact .starts (.inr ⟨config, rfl, zone, listed, member, on, due⟩) rfl rfl
    | false => exact .stops (.inr ⟨config, rfl, zone, listed, member, on, due⟩) rfl rfl
  · rw [if_neg due]
    refine .follows ?_ ?_ rfl
    · rintro (⟨_, report, _⟩ | ⟨_, _, _, _, _, _, again⟩)
      · cases report
      · exact due again
    · rintro (⟨_, report, _⟩ | ⟨_, _, _, _, _, _, again⟩)
      · cases report
      · exact due again

/-- A report of a valve. -/
theorem of_valve {config : HeatingConfig} {zone : HeatingZone} (listed : zone ∈ config.zones)
    (member : device ∈ zone.trvs.map (·.device)) (reported : String) (report : TrvReport) :
    WindowChange ⟨env, before, .observeTrv config reported report⟩ device
      (before.world.trvAt device).window
      ((env.handleTrvState config reported report before).world.trvAt device).window := by
  by_cases about : reported = device
  · subst about
    have served : config.hasTrv reported = true := by
      obtain ⟨trv, inside, named⟩ := List.mem_map.mp member
      exact List.any_eq_true.mpr ⟨zone, listed, List.any_eq_true.mpr
        ⟨trv, inside, beq_iff_eq.mpr named⟩⟩
    have after : (env.handleTrvState config reported report before).world.trvAt reported =
        (before.world.trvAt reported).observe report env.clock.now before.heatingTickGen := by
      unfold Env.handleTrvState
      rw [if_pos served, Runtime.modifyTrv, WorldState.trvAt_modifyTrv, if_pos rfl]
    have still : ¬ Record.StartsDetection
        ⟨env, before, .observeTrv config reported report⟩ reported ∧
          ¬ Record.StopsDetection ⟨env, before, .observeTrv config reported report⟩ reported :=
      Record.detection_kept rfl fun _ same => by cases same
    have here : (Operation.observeTrv config reported report).trvReport reported =
        some report := if_pos rfl
    refine .follows still.1 still.2 ?_
    dsimp only
    rw [here, Option.bind_some, ← TrvEntity.window_observe _ report _ before.heatingTickGen,
      ← after]
  · refine of_kept rfl (fun _ same => by cases same) (if_neg about) ?_
    change ((env.handleTrvState config reported report before).world.trvAt device).window = _
    unfold Env.handleTrvState
    split
    · rw [Runtime.modifyTrv, WorldState.trvAt_modifyTrv, if_neg about]
    · rfl

/-- The valves are checked for open windows. -/
theorem of_controlValves (config : HeatingConfig) :
    WindowChange ⟨env, before, .controlValves config⟩ device (before.world.trvAt device).window
      ((env.controlValves config before).1.world.trvAt device).window := by
  have still : ¬ Record.StartsDetection ⟨env, before, .controlValves config⟩ device ∧
      ¬ Record.StopsDetection ⟨env, before, .controlValves config⟩ device :=
    Record.detection_kept rfl fun _ same => by cases same
  have judged {middle : TrvEntity} (kept : middle.window = (before.world.trvAt device).window)
      (unchecked : middle.openWindow.checked = false)
      (result : ((env.controlValves config before).1.world.trvAt device).window =
        middle.window.judged) :
      WindowChange ⟨env, before, .controlValves config⟩ device
        (before.world.trvAt device).window
        ((env.controlValves config before).1.world.trvAt device).window :=
    .judges still.1 still.2 rfl
      ((congrArg (fun window : TrvEntity.Window => window.state.checked) kept).symm.trans
        unchecked) (result.trans (by rw [kept]))
  have same (kept : ((env.controlValves config before).1.world.trvAt device).window =
      (before.world.trvAt device).window) :
      WindowChange ⟨env, before, .controlValves config⟩ device
        (before.world.trvAt device).window
        ((env.controlValves config before).1.world.trvAt device).window :=
    of_kept rfl (fun _ same => by cases same) rfl kept
  rcases env.controlValves_cases config rfl
      (Eq.refl ((env.controlValves config before).1.world.trvAt device)) with
    left | told | ⟨middle, told, unchecked, left⟩ | detects
  · exact same (congrArg TrvEntity.window left)
  · exact same told.1
  · exact judged told.1 unchecked (congrArg TrvEntity.window left)
  · generalize (env.controlValves config before).1.world.trvAt device = after at detects judged
    cases detects with
    | judged unchecked => exact judged rfl unchecked rfl
    | inhibited _ _ _ _ _ _ _ _ _ unchecked => exact judged rfl unchecked rfl

/-- Relays are decided on with the valves that are held open. -/
theorem of_controlRelays (config : HeatingConfig) :
    WindowChange ⟨env, before, .controlRelays config⟩ device (before.world.trvAt device).window
      ((env.controlRelays config before).1.world.trvAt device).window := by
  have steps : Runtime.ValvesBy (fun trv after => after.window = trv.window) before
      (env.controlRelays config before).1 :=
    Env.controlRelays_valves (fun trv reason tickGen => trv.window_forceOpen reason _ tickGen)
      config before
  refine of_kept rfl (fun _ same => by cases same) rfl ?_
  exact Steps.preserves (fun trv => trv.window = (before.world.trvAt device).window) steps
    (fun _ _ step kept => step.trans kept) rfl

end WindowChange

/-- What an operation makes of the detection of a valve of the configuration. -/
theorem WindowChange.of_record {record : Record} {config : HeatingConfig} {zone : HeatingZone}
    {device : String} (admissible : record.operation.Admissible record.env.topology)
    (heating : record.env.topology.heatingConfig = some config) (listed : zone ∈ config.zones)
    (member : device ∈ zone.trvs.map (·.device)) :
    WindowChange record device (record.before.world.trvAt device).window
      (record.after.world.trvAt device).window := by
  obtain ⟨env, before, operation⟩ := record
  have valid := env.topology.valid.heating_valid config heating
  cases operation with
  | observeTrv other reported report =>
      have known : env.topology.heatingConfig = some other := admissible
      rw [heating] at known
      cases known
      exact .of_valve listed member reported report
  | observeThermostat other relay relayOn temperature mode => exact .of_thermostat
  | beginHeatingTick other =>
      have known : env.topology.heatingConfig = some other := admissible
      rw [heating] at known
      cases known
      exact .of_tick valid listed member
  | controlValves other => exact .of_controlValves other
  | controlRelays other => exact .of_controlRelays other
  | ageTargets ts => exact .of_kept rfl (fun _ same => by cases same) rfl rfl
  | _ =>
      refine .of_kept rfl (fun _ same => by cases same) rfl ?_
      have kept := congrArg Heating.trvs (Operation.run_heating admissible rfl before)
      unfold WorldState.trvAt
      exact congrArg (fun trvs : NameMap TrvEntity => (trvs[device]?.getD default).window) kept

namespace TrvEntity

/-- A valve that was not inhibited does not become inhibited. -/
def Stays (now : Instant) (trv after : TrvEntity) : Prop :=
  after.isInhibited now = true → trv.isInhibited now = true

theorem isInhibited_expireInhibition (trv : TrvEntity) (relayOn : Bool) (now : Instant) :
    (trv.expireInhibition relayOn now).isInhibited now = false := by
  unfold expireInhibition
  dsimp only
  split
  · rfl
  · rfl

theorem stays_relayTurnedOff (now : Instant) (trv : TrvEntity) :
    Stays now trv (trv.relayTurnedOff now) := by
  intro inhibited
  unfold relayTurnedOff at inhibited
  dsimp only at inhibited
  split at inhibited
  · cases inhibited
  · exact inhibited

theorem isInhibited_congr {trv after : TrvEntity} (same : after.target.value = trv.target.value)
    (now : Instant) : after.isInhibited now = trv.isInhibited now := by
  unfold isInhibited
  rw [same]

end TrvEntity

/-- Only open-window detection inhibits a valve. -/
theorem Record.Inhibits.detects {record : Record} {device : String}
    (inhibits : record.Inhibits device)
    (admissible : record.operation.Admissible record.env.topology) :
    ∃ config, record.operation = .controlValves config ∧
      TrvEntity.Detects record.env config record.before.world.heatingZones device
        (record.before.world.trvAt device) (record.after.world.trvAt device) := by
  obtain ⟨free, inhibited⟩ := inhibits
  have stays (kept : TrvEntity.Stays record.env.clock.now (record.before.world.trvAt device)
      (record.after.world.trvAt device)) : False := by
    rw [kept inhibited] at free
    cases free
  cases reported : record.operation.trvReport device with
  | some report =>
      refine (stays fun inhibited => ?_).elim
      rcases Operation.run_trvAt_reported record.env reported record.before with after | after
      · have value : (record.after.world.trvAt device).target.value =
            (record.before.world.trvAt device).target.value :=
          (congrArg (fun trv : TrvEntity => trv.target.value) after).trans
            (TrvEntity.value_observe _ _ _ _)
        rwa [← TrvEntity.isInhibited_congr value]
      · have same : record.after.world.trvAt device = record.before.world.trvAt device := after
        rwa [← same]
  | none =>
      by_cases apart : ∀ config, record.operation ≠ .controlValves config
      · have steps : Relation.ReflTransGen (TrvEntity.Stays record.env.clock.now)
            (record.before.world.trvAt device) (record.after.world.trvAt device) :=
          Operation.run_trvAt_by
            (fun relayOn _ inhibited => by
              rw [TrvEntity.isInhibited_expireInhibition] at inhibited
              cases inhibited)
            (fun _ _ _ inhibited => by cases inhibited) (fun _ => id)
            (TrvEntity.stays_relayTurnedOff _) admissible reported apart record.before
        refine (stays ?_).elim
        generalize record.after.world.trvAt device = after at steps
        induction steps with
        | refl => exact id
        | tail _ last ih => exact fun inhibited => ih (last inhibited)
      · simp only [ne_eq, not_forall, not_not] at apart
        obtain ⟨config, controls⟩ := apart
        refine ⟨config, controls, ?_⟩
        have controlled : (record.env.controlValves config record.before).1.world.trvAt device =
            record.after.world.trvAt device := by
          unfold Record.after
          rw [controls]
          rfl
        rcases record.env.controlValves_cases config rfl controlled with
          same | told | ⟨middle, told, _, left⟩ | detects
        · rw [same, free] at inhibited
          cases inhibited
        · rw [told.2.1] at inhibited
          cases inhibited
        · have still : (record.after.world.trvAt device).isInhibited record.env.clock.now =
              false := by
            rw [left]
            exact told.2.1
          rw [still] at inhibited
          cases inhibited
        · exact detects

/-! ## Since when a relay is on -/

namespace Runtime

/-- Since when a relay is on. -/
def relayOnSince (runtime : Runtime) (name : String) : Option Instant :=
  (runtime.world.heatingZoneAt name).relayOnSince

theorem RelaysKept.relayOnSince {before after : Runtime} (kept : RelaysKept before after)
    (name : String) : after.relayOnSince name = before.relayOnSince name :=
  congrArg (fun relay => relay.2.1) (kept.relays name)

theorem relayOnSince_modifyHeatingZone (runtime : Runtime) (name other : String)
    (change : HeatingZoneEntity → HeatingZoneEntity) :
    (runtime.modifyHeatingZone name change).relayOnSince other =
      if name = other then (change (runtime.world.heatingZoneAt name)).relayOnSince
      else runtime.relayOnSince other := by
  unfold relayOnSince modifyHeatingZone
  dsimp only
  rw [WorldState.heatingZoneAt_modifyHeatingZone]
  split
  · rfl
  · rfl

/-- The times of the other relays are left alone. -/
def Elsewhere (name : String) (before after : Runtime) : Prop :=
  ∀ other, name ≠ other → after.relayOnSince other = before.relayOnSince other

theorem Elsewhere.trans {name : String} {first second third : Runtime}
    (early : Elsewhere name first second) (late : Elsewhere name second third) :
    Elsewhere name first third :=
  fun other apart => (late other apart).trans (early other apart)

theorem elsewhere_modify (runtime : Runtime) (name : String)
    (change : HeatingZoneEntity → HeatingZoneEntity) :
    Elsewhere name runtime (runtime.modifyHeatingZone name change) := by
  intro other apart
  rw [relayOnSince_modifyHeatingZone, if_neg apart]

theorem elsewhere_relayRepeated (runtime : Runtime) (name : String)
    (on firstContact pumpRunning : Bool) (count : Nat) (temperature : Option ℚ) (now : Instant) :
    Elsewhere name runtime
      (runtime.relayRepeated name on firstContact pumpRunning count temperature now) := by
  unfold relayRepeated
  extract_lets seeded zone
  have seeds : Elsewhere name runtime seeded := by
    change Elsewhere name runtime (if (firstContact && !on && !pumpRunning) = true then
      { runtime with pumpOffSince := runtime.pumpOffSince.or (some now) } else runtime)
    split
    · exact fun _ _ => rfl
    · exact fun _ _ => rfl
  split
  · split
    · split
      · exact seeds
      · split
        · exact seeds.trans (elsewhere_modify seeded name _)
        · exact seeds.trans (elsewhere_modify seeded name _)
    · exact seeds.trans (elsewhere_modify seeded name _)
    · exact seeds
  · exact seeds

theorem elsewhere_relayTurned (runtime : Runtime) (zone : HeatingZone) (count : Nat)
    (temperature : Option ℚ) (now : Instant) :
    Elsewhere zone.name runtime (runtime.relayTurnedOn zone count temperature now) ∧
      Elsewhere zone.name runtime (runtime.relayTurnedOff zone count temperature now) := by
  constructor
  · unfold relayTurnedOn
    extract_lets observed detecting confirmed
    have detects : Elsewhere zone.name observed detecting := by
      change Elsewhere zone.name observed (if observed.startupComplete = true then
        observed.modifyTrvs zone.trvs (·.startDetection now) else observed)
      split
      · exact fun other _ => (RelaysKept.modifyTrvs observed zone.trvs _).relayOnSince other
      · exact fun _ _ => rfl
    have turned := ((elsewhere_modify runtime zone.name _).trans detects).trans
      (elsewhere_modify detecting zone.name (·.confirmRelay .heating now))
    split
    · exact turned
    · exact turned
  · unfold relayTurnedOff
    extract_lets observed released confirmed
    have releases : Elsewhere zone.name observed released :=
      fun other _ => (RelaysKept.modifyTrvs observed zone.trvs _).relayOnSince other
    have turned := ((elsewhere_modify runtime zone.name _).trans releases).trans
      (elsewhere_modify released zone.name (·.confirmRelay .off now))
    split
    · exact turned
    · exact turned

/-- A report of a relay leaves the times of the other relays alone. -/
theorem elsewhere_observeRelay (runtime : Runtime) (zone : HeatingZone) (on : Bool)
    (temperature : Option ℚ) (now : Instant) :
    Elsewhere zone.name runtime (runtime.observeRelay zone on temperature now) := by
  unfold observeRelay
  extract_lets count running before contacted changed
  have contacts : Elsewhere zone.name runtime contacted := elsewhere_modify runtime zone.name _
  split
  · exact contacts.trans (elsewhere_relayRepeated _ _ _ _ _ _ _ _)
  · have turned : Elsewhere zone.name contacted changed := by
      change Elsewhere zone.name contacted (if on = true then
        contacted.relayTurnedOn zone count temperature now
        else contacted.relayTurnedOff zone count temperature now)
      split
      · exact (elsewhere_relayTurned contacted zone count temperature now).1
      · exact (elsewhere_relayTurned contacted zone count temperature now).2
    exact (contacts.trans turned).trans (elsewhere_modify changed zone.name _)

/-- A report that a relay is on sets its time if it was off. -/
theorem relayOnSince_observeRelay (runtime : Runtime) (zone : HeatingZone)
    (temperature : Option ℚ) (now : Instant) :
    (runtime.observeRelay zone true temperature now).relayOnSince zone.name =
      if runtime.relayOn zone.name = true then runtime.relayOnSince zone.name else some now := by
  unfold observeRelay
  extract_lets count running before contacted changed
  by_cases was : runtime.relayOn zone.name = true
  · have known : before.isRelayOn = true := was
    rw [if_pos was, if_pos known]
    have repeated : contacted.relayRepeated zone.name true (!before.relayStateKnown) running count
        temperature now = contacted := by
      simp only [relayRepeated, Bool.not_true, Bool.false_and, Bool.and_false, Bool.false_eq_true,
        if_false]
    rw [repeated]
    change (runtime.modifyHeatingZone zone.name _).relayOnSince zone.name = _
    rw [relayOnSince_modifyHeatingZone, if_pos rfl]
    unfold HeatingZoneEntity.contact
    split
    · rfl
    · rfl
  · have known : ¬ before.isRelayOn = true := was
    rw [if_neg was, if_neg known]
    have turned : changed.relayOnSince zone.name = some now := by
      change (contacted.relayTurnedOn zone count temperature now).relayOnSince zone.name = some now
      unfold relayTurnedOn
      extract_lets observed detecting confirmed
      have detects : RelaysKept observed detecting := by
        change RelaysKept observed (if observed.startupComplete = true then
          observed.modifyTrvs zone.trvs (·.startDetection now) else observed)
        split
        · exact .modifyTrvs _ _ _
        · exact .refl _
      have observes : observed.relayOnSince zone.name = some now := by
        change (contacted.modifyHeatingZone zone.name _).relayOnSince zone.name = _
        rw [relayOnSince_modifyHeatingZone, if_pos rfl]
      have confirms := (detects.trans (confirmRelay_kept detecting zone.name .heating
        now)).relayOnSince zone.name
      split
      · exact confirms.trans observes
      · exact confirms.trans observes
    have redirtied : RelaysKept changed (changed.modifyHeatingZone zone.name (·.redirty now)) :=
      .modifyHeatingZone fun entity => relay_redirty entity now
    exact (redirtied.relayOnSince zone.name).trans turned

end Runtime

/-- What a report of a relay makes of the times of the relays. -/
theorem Operation.run_relayOnSince (env : Env) {operation : Operation} {zone : HeatingZone}
    {on : Bool} (report : operation.relayReport = some (zone, on)) (runtime : Runtime) :
    Runtime.Elsewhere zone.name runtime (operation.run env runtime).1 ∧
      (on = true → (operation.run env runtime).1.relayOnSince zone.name =
        if runtime.relayOn zone.name = true then runtime.relayOnSince zone.name
        else some env.clock.now) := by
  cases operation with
  | observeThermostat config device relayOn temperature mode =>
      cases relayOn with
      | none => cases report
      | some reported =>
          obtain ⟨found, here, same⟩ := Option.map_eq_some_iff.mp report
          cases same
          change Runtime.Elsewhere zone.name runtime
              (env.handleWallThermostatState config device (some on) temperature mode runtime) ∧
            (on = true → (env.handleWallThermostatState config device (some on) temperature mode
              runtime).relayOnSince zone.name = _)
          unfold Env.handleWallThermostatState
          rw [here]
          dsimp only
          have seen : Runtime.RelaysKept runtime (runtime.modifyHeatingZone zone.name fun entity =>
              { entity with
                wtLastSeen := some env.clock.now
                wtOperatingMode := mode.or entity.wtOperatingMode }) :=
            .modifyHeatingZone fun _ => rfl
          refine ⟨(Runtime.elsewhere_modify runtime zone.name _).trans
            (Runtime.elsewhere_observeRelay _ zone on temperature env.clock.now), ?_⟩
          rintro rfl
          rw [Runtime.relayOnSince_observeRelay, seen.relayOn, seen.relayOnSince]
  | _ => cases report

namespace Record

/-- A report that the relay of a zone is on, at a time. -/
def TurnsOn (name : String) (since : Instant) (record : Record) : Prop :=
  (∃ zone, record.operation.relayReport = some (zone, true) ∧ zone.name = name) ∧
    record.env.clock.now = since

/-- A report that the relay of a zone is off. -/
def TurnsOff (name : String) (record : Record) : Prop :=
  ∃ zone, record.operation.relayReport = some (zone, false) ∧ zone.name = name

end Record

/-- A relay that is on has been on since the report that set its time. -/
def FollowsRelay (history : List Record) (runtime : Runtime) : Prop :=
  ∀ name since, runtime.relayOn name = true → runtime.relayOnSince name = some since →
    Since (Record.TurnsOn name since) (Record.TurnsOff name) history

theorem FollowsRelay.step {history : List Record} (record : Record)
    (follows : FollowsRelay history record.before)
    (admissible : record.operation.Admissible record.env.topology) :
    FollowsRelay (history ++ [record]) record.after := by
  intro name since on set
  cases report : record.operation.relayReport with
  | none =>
      have kept := Operation.run_relays admissible report record.before
      refine (follows name since ((kept.relayOn name).symm.trans on)
        ((kept.relayOnSince name).symm.trans set)).concat ?_
      rintro ⟨zone, off, _⟩
      rw [report] at off
      cases off
  | some found =>
      obtain ⟨zone, shown⟩ := found
      have observes := (Operation.run_pump record.env report record.before).1 name
      obtain ⟨elsewhere, here⟩ := Operation.run_relayOnSince record.env report record.before
      have lit : record.after.relayOn name = if zone.name = name then shown
          else record.before.relayOn name := observes
      rw [lit] at on
      by_cases same : zone.name = name
      · subst same
        rw [if_pos rfl] at on
        subst on
        have time : record.after.relayOnSince zone.name = _ := here rfl
        rw [time] at set
        split at set
        · rename_i was
          refine (follows zone.name since was set).concat ?_
          rintro ⟨other, off, _⟩
          rw [report] at off
          cases off
        · cases set
          exact since_last history ⟨⟨zone, report, rfl⟩, rfl⟩
      · rw [if_neg same] at on
        have time : record.after.relayOnSince name = _ := elsewhere name same
        rw [time] at set
        refine (follows name since on set).concat ?_
        rintro ⟨other, off, named⟩
        rw [report] at off
        cases off
        exact same named

/-! ## Detection cycles -/

/-- The baseline of a detection cycle: the last temperature before it, while fresh, or else the
first one of the cycle. -/
def cycleBaseline (device : String) (early : List Record) (start : Record) (cycle : List Record) :
    Option ℚ :=
  (((lastPicked (·.sample device) early).filter fun sample =>
      decide (durationSince start.env.clock.now sample.2 < TrvEntity.staleThreshold)).map
        Prod.fst).or
    ((cycle.filterMap (·.sample device)).head?.map Prod.fst)

/-- The records of a detection cycle, and what they make of the detection state. -/
structure DetectionCycle (device : String) (early : List Record) (start : Record)
    (cycle : List Record) (state : OpenWindowState) : Prop where
  starts : start.StartsDetection device
  goesOn : ∀ record ∈ cycle, ¬ record.StartsDetection device ∧ ¬ record.StopsDetection device
  based : state.tempAtRelayOn = cycleBaseline device early start cycle
  bounded : ∀ sample ∈ cycle.filterMap (·.sample device),
    ∃ high, state.tempHighWater = some high ∧ sample.1 ≤ high

/-- The detection of a valve is what the history makes of it. -/
structure FollowsWindow (history : List Record) (device : String) (window : TrvEntity.Window) :
    Prop where
  temperature : window.temperature = (lastPicked (·.sample device) history).map Prod.fst
  lastTempAt : window.lastTempAt = (lastPicked (·.sample device) history).map Prod.snd
  cycle : ∀ time, window.state.baselineEstablishedAt = some time →
    ∃ early start cycle, history = early ++ start :: cycle ∧ start.env.clock.now = time ∧
      DetectionCycle device early start cycle window.state
  unchecked : window.state.checked = false → ∀ early first rest,
    history = early ++ first :: rest → first.Judges device →
      ∃ record ∈ rest, record.StartsDetection device ∨ record.StopsDetection device

namespace DetectionCycle

variable {device : String} {early cycle : List Record} {start record : Record}
  {state : OpenWindowState}

/-- A cycle goes on with a record without a temperature. -/
theorem concat_silent (goes : DetectionCycle device early start cycle state)
    (still : ¬ record.StartsDetection device ∧ ¬ record.StopsDetection device)
    (silent : record.sample device = none) {after : OpenWindowState}
    (based : after.tempAtRelayOn = state.tempAtRelayOn)
    (bounded : after.tempHighWater = state.tempHighWater) :
    DetectionCycle device early start (cycle ++ [record]) after where
  starts := goes.starts
  goesOn other member := by
    rcases List.mem_append.mp member with inside | last
    · exact goes.goesOn other inside
    · rw [List.mem_singleton.mp last]
      exact still
  based := by
    rw [based, goes.based]
    unfold cycleBaseline
    simp [silent]
  bounded := by
    rw [bounded]
    simpa [silent] using goes.bounded

/-- A cycle goes on with a temperature. -/
theorem concat_sample (goes : DetectionCycle device early start cycle state)
    (still : ¬ record.StartsDetection device ∧ ¬ record.StopsDetection device)
    {temperature : ℚ} {time : Instant} (sampled : record.sample device = some (temperature, time))
    (active : state.baselineEstablishedAt.isSome) :
    DetectionCycle device early start (cycle ++ [record]) (state.sample temperature) where
  starts := goes.starts
  goesOn other member := by
    rcases List.mem_append.mp member with inside | last
    · exact goes.goesOn other inside
    · rw [List.mem_singleton.mp last]
      exact still
  based := by
    have base := goes.based
    unfold OpenWindowState.sample
    rw [if_pos active]
    dsimp only
    rw [base]
    unfold cycleBaseline
    rw [List.filterMap_append, List.head?_append, Option.map_or, Option.or_assoc]
    simp [sampled]
  bounded other member := by
    unfold OpenWindowState.sample
    rw [if_pos active]
    refine ⟨_, rfl, ?_⟩
    rw [List.filterMap_append, List.mem_append] at member
    rcases member with inside | last
    · obtain ⟨high, known, below⟩ := goes.bounded other inside
      rw [known]
      exact below.trans (le_max_right temperature high)
    · have same : other = (temperature, time) := by simpa [sampled] using last
      rw [same]
      cases state.tempHighWater with
      | none => exact le_rfl
      | some high => exact le_max_left temperature high

end DetectionCycle

namespace FollowsWindow

variable {history : List Record} {record : Record} {device : String}

theorem baseline_eq {window : TrvEntity.Window} (follows : FollowsWindow history device window)
    (start : Record) :
    window.baseline start.env.clock.now = cycleBaseline device history start [] := by
  unfold TrvEntity.Window.baseline cycleBaseline
  rw [follows.temperature, follows.lastTempAt, List.filterMap_nil, List.head?_nil, Option.map_none,
    Option.or_none]
  cases lastPicked (·.sample device) history with
  | none => rfl
  | some sample =>
      rw [Option.map_some, Option.map_some, Option.any_some, Option.filter_some]
      split
      · rfl
      · rfl

/-- What was judged before is followed by a new cycle before it can be judged again. -/
theorem unchecked_concat {after : TrvEntity.Window}
    (follows : FollowsWindow history device (record.before.world.trvAt device).window)
    (here : (record.after.world.trvAt device).window = after)
    (unchecked : after.state.checked = false)
    (kept : (record.StartsDetection device ∨ record.StopsDetection device) ∨
      (record.before.world.trvAt device).window.state.checked = false)
    {early rest : List Record} {first : Record}
    (split : history ++ [record] = early ++ first :: rest) (judges : first.Judges device) :
    ∃ other ∈ rest, other.StartsDetection device ∨ other.StopsDetection device := by
  rcases List.eq_nil_or_concat rest with rfl | ⟨front, last, rfl⟩
  · obtain ⟨_, same⟩ := List.append_inj' split rfl
    cases same
    have checked : (record.after.world.trvAt device).window.state.checked = true := judges.2
    rw [here, unchecked] at checked
    cases checked
  · rw [List.concat_eq_append] at split ⊢
    rw [← List.cons_append, ← List.append_assoc] at split
    obtain ⟨before, same⟩ := List.append_inj' split rfl
    cases same
    rcases kept with renewed | unchecked
    · exact ⟨record, List.mem_append_right _ (List.mem_singleton_self _), renewed⟩
    · obtain ⟨other, inside, renewed⟩ :=
        follows.unchecked unchecked early first front before judges
      exact ⟨other, List.mem_append_left _ inside, renewed⟩

theorem step (record : Record)
    (follows : FollowsWindow history device (record.before.world.trvAt device).window)
    (change : WindowChange record device (record.before.world.trvAt device).window
      (record.after.world.trvAt device).window) :
    FollowsWindow (history ++ [record]) device (record.after.world.trvAt device).window := by
  have again := follows.unchecked_concat rfl
  generalize (record.after.world.trvAt device).window = after at change again
  cases change with
  | starts starts silent result =>
      subst result
      refine ⟨?_, ?_, fun time started => ?_, fun unchecked early first rest split judges =>
        again unchecked (.inl (.inl starts)) split judges⟩
      · rw [lastPicked_concat, silent, Option.none_or]
        exact follows.temperature
      · rw [lastPicked_concat, silent, Option.none_or]
        exact follows.lastTempAt
      · cases started
        refine ⟨history, record, [], rfl, rfl, starts, by simp, ?_, by simp⟩
        exact follows.baseline_eq record
  | stops stops silent result =>
      subst result
      refine ⟨?_, ?_, fun time started => ?_, fun unchecked early first rest split judges =>
        again unchecked (.inl (.inr stops)) split judges⟩
      · rw [lastPicked_concat, silent, Option.none_or]
        exact follows.temperature
      · rw [lastPicked_concat, silent, Option.none_or]
        exact follows.lastTempAt
      · cases started
  | judges unstarted unstopped silent unchecked result =>
      subst result
      refine ⟨?_, ?_, fun time started => ?_, fun unchecked => ?_⟩
      · rw [lastPicked_concat, silent, Option.none_or]
        exact follows.temperature
      · rw [lastPicked_concat, silent, Option.none_or]
        exact follows.lastTempAt
      · obtain ⟨early, start, cycle, split, at', goes⟩ := follows.cycle time started
        exact ⟨early, start, cycle ++ [record], by simp [split], at',
          goes.concat_silent ⟨unstarted, unstopped⟩ silent rfl rfl⟩
      · cases unchecked
  | follows unstarted unstopped result =>
      subst result
      cases measured : (record.operation.trvReport device).bind (·.localTemperature) with
      | none =>
          have silent : record.sample device = none := by rw [Record.sample, measured]; rfl
          rw [measured] at again
          refine ⟨?_, ?_, fun time started => ?_, fun unchecked early first rest split judges =>
            again unchecked (.inr unchecked) split judges⟩
          · rw [lastPicked_concat, silent, Option.none_or]
            exact follows.temperature
          · rw [lastPicked_concat, silent, Option.none_or]
            exact follows.lastTempAt
          · obtain ⟨early, start, cycle, split, at', goes⟩ := follows.cycle time started
            exact ⟨early, start, cycle ++ [record], by simp [split], at',
              goes.concat_silent ⟨unstarted, unstopped⟩ silent rfl rfl⟩
      | some temperature =>
          have sampled : record.sample device = some (temperature, record.env.clock.now) := by
            rw [Record.sample, measured]
            rfl
          rw [measured] at again
          have kept : ∀ state : OpenWindowState,
              (state.sample temperature).checked = state.checked ∧
                (state.sample temperature).baselineEstablishedAt = state.baselineEstablishedAt := by
            intro state
            unfold OpenWindowState.sample
            split
            · exact ⟨rfl, rfl⟩
            · exact ⟨rfl, rfl⟩
          refine ⟨?_, ?_, fun time started => ?_, fun unchecked early first rest split judges =>
            again unchecked (.inr ((kept _).1.symm.trans unchecked)) split judges⟩
          · rw [lastPicked_concat, sampled]
            rfl
          · rw [lastPicked_concat, sampled]
            rfl
          · have active := (kept _).2.symm.trans started
            obtain ⟨early, start, cycle, split, at', goes⟩ := follows.cycle time active
            exact ⟨early, start, cycle ++ [record], by simp [split], at',
              goes.concat_sample ⟨unstarted, unstopped⟩ sampled (by rw [active]; rfl)⟩

end FollowsWindow

/-! ## Relay cycles -/

/-- A relay that was on at a record is on until a report that it is off. -/
def StaysOn (history : List Record) (runtime : Runtime) : Prop :=
  ∀ name early first rest, history = early ++ first :: rest → first.after.relayOn name = true →
    (∀ record ∈ rest, ¬ record.TurnsOff name) → runtime.relayOn name = true

theorem Record.relayOn_after {record : Record} {name : String}
    (admissible : record.operation.Admissible record.env.topology)
    (on : record.before.relayOn name = true) (still : ¬ record.TurnsOff name) :
    record.after.relayOn name = true := by
  cases report : record.operation.relayReport with
  | none =>
      exact ((Operation.run_relays admissible report record.before).relayOn name).trans on
  | some found =>
      obtain ⟨zone, shown⟩ := found
      have observes : record.after.relayOn name = if zone.name = name then shown
          else record.before.relayOn name :=
        (Operation.run_pump record.env report record.before).1 name
      rw [observes]
      split
      · rename_i same
        cases shown with
        | true => rfl
        | false => exact absurd ⟨zone, report, same⟩ still
      · exact on

theorem StaysOn.step {history : List Record} (record : Record)
    (stays : StaysOn history record.before)
    (admissible : record.operation.Admissible record.env.topology) :
    StaysOn (history ++ [record]) record.after := by
  intro name early first rest split on still
  rcases List.eq_nil_or_concat rest with rfl | ⟨front, last, rfl⟩
  · obtain ⟨_, same⟩ := List.append_inj' split rfl
    cases same
    exact on
  · rw [List.concat_eq_append] at split still
    rw [← List.cons_append, ← List.append_assoc] at split
    obtain ⟨before, same⟩ := List.append_inj' split rfl
    cases same
    refine Record.relayOn_after admissible (stays name early first front before on
      fun other member => still other (List.mem_append_left _ member)) (still record ?_)
    exact List.mem_append_right _ (List.mem_singleton_self _)

namespace Record

/-- The inhibition of a valve ends on a heating tick. -/
def EndsInhibition (record : Record) (device : String) : Prop :=
  (∃ config, record.operation = .beginHeatingTick config) ∧
    (record.before.world.trvAt device).inhibitionExpired record.env.clock.now = true

/-- While the relay of the zone is on, a detection cycle starts or stops only when an inhibition of
the valve ends. -/
theorem endsInhibition {record : Record} {config : HeatingConfig} {zone : HeatingZone}
    {device : String} (heating : record.env.topology.heatingConfig = some config)
    (admissible : record.operation.Admissible record.env.topology) (listed : zone ∈ config.zones)
    (member : device ∈ zone.trvs.map (·.device)) (on : record.before.relayOn zone.name = true)
    (still : ¬ record.TurnsOff zone.name)
    (renewed : record.StartsDetection device ∨ record.StopsDetection device) :
    record.EndsInhibition device := by
  have valid := record.env.topology.valid.heating_valid config heating
  have home {other : HeatingZone} {shown : Bool}
      (report : record.operation.relayReport = some (other, shown))
      (inside : device ∈ other.trvs.map (·.device)) : other = zone := by
    cases operation : record.operation with
    | observeThermostat known relay relayOn temperature mode =>
        rw [operation] at report admissible
        have same : record.env.topology.heatingConfig = some known := admissible
        rw [heating] at same
        cases same
        cases relayOn with
        | none => cases report
        | some reported =>
            obtain ⟨found, here, same⟩ := Option.map_eq_some_iff.mp report
            cases same
            exact HeatingConfig.zone_of_trv_unique valid (List.mem_of_find?_eq_some here) listed
              inside member
    | _ =>
        rw [operation] at report
        cases report
  rcases renewed with (⟨other, report, inside, off, _⟩ | ⟨other, begins, _, _, _, _, due⟩) |
      (⟨other, report, inside, _⟩ | ⟨other, begins, _, _, _, _, due⟩)
  · rw [home report inside, on] at off
    cases off
  · exact ⟨⟨other, begins⟩, due⟩
  · exact absurd ⟨other, report, by rw [home report inside]⟩ still
  · exact ⟨⟨other, begins⟩, due⟩

end Record

/-- The relays and the detection of every valve follow the history. -/
theorem detection_follows : KeptByOperations fun topology history runtime =>
    (FollowsRelay history runtime ∧ StaysOn history runtime) ∧
      (∀ record ∈ history, record.env.topology = topology) ∧
      ∀ config, topology.heatingConfig = some config →
      ∀ zone ∈ config.zones, ∀ device ∈ zone.trvs.map (·.device),
        FollowsWindow history device (runtime.world.trvAt device).window where
  launch topology := by
    refine ⟨⟨fun name since on => ?_, fun name early first rest split => ?_⟩, by simp,
      fun config _ zone _ device _ =>
        ⟨rfl, rfl, fun time started => ?_, fun _ early first rest split => ?_⟩⟩
    · cases on
    · simp at split
    · cases started
    · simp at split
  operation env operation past runtime admissible _ holds :=
    ⟨⟨FollowsRelay.step ⟨env, runtime, operation⟩ holds.1.1 admissible,
        StaysOn.step ⟨env, runtime, operation⟩ holds.1.2 admissible⟩,
      fun record member => by
        rcases List.mem_append.mp member with early | last
        · exact holds.2.1 record early
        · rw [List.mem_singleton.mp last],
      fun config heating zone listed device member =>
        FollowsWindow.step ⟨env, runtime, operation⟩
          (holds.2.2 config heating zone listed device member)
          (.of_record admissible heating listed member)⟩

/-- What inhibiting a valve of a zone goes by. -/
structure InhibitedFor (config : HeatingConfig) (zone : HeatingZone) (device : String)
    (past : List Record) (record : Record) : Prop where
  /-- The relay was reported on for the detection time, and not off since. -/
  relay : ∃ since, since + config.openWindow.detection ≤ record.env.clock.now ∧
    Since (Record.TurnsOn zone.name since) (Record.TurnsOff zone.name) past
  demand : (record.before.world.trvAt device).hasEffectiveDemand record.env.clock.now
    config.heatPump.minDemandPercent config.heatPump.minDemandPercentFallback = true
  /-- A detection cycle is under way, with a baseline that no temperature of the cycle exceeds by
  more than a tenth, and with a temperature received after it started. -/
  cold : ∃ early start cycle baseline, past = early ++ start :: cycle ∧
    start.StartsDetection device ∧
      (∀ other ∈ cycle, ¬ other.StartsDetection device ∧ ¬ other.StopsDetection device) ∧
        cycleBaseline device early start cycle = some baseline ∧
          (∃ sample ∈ cycle.filterMap (·.sample device), start.env.clock.now < sample.2) ∧
            ∀ sample ∈ cycle.filterMap (·.sample device), sample.1 ≤ baseline + 1 / 10

/-- The last temperature is one of the cycle when it was received after the cycle started. -/
theorem sample_of_cycle {device : String} {early cycle : List Record} {start : Record}
    (ordered : ∀ record ∈ early, record.env.clock.now ≤ start.env.clock.now) {last : Instant}
    (picked : (lastPicked (·.sample device) (early ++ start :: cycle)).map Prod.snd = some last)
    (later : start.env.clock.now < last) :
    ∃ sample ∈ cycle.filterMap (·.sample device), start.env.clock.now < sample.2 := by
  obtain ⟨sample, found, rfl⟩ := Option.map_eq_some_iff.mp picked
  obtain ⟨front, record, back, split, sampled, _⟩ := lastPicked_eq_some_iff.mp found
  have time : sample.2 = record.env.clock.now := by
    unfold Record.sample at sampled
    obtain ⟨temperature, _, rfl⟩ := Option.map_eq_some_iff.mp sampled
    rfl
  have member : record ∈ early ++ start :: cycle := by simp [split]
  rcases List.mem_append.mp member with before | rest
  · rw [time] at later
    exact absurd later (ordered record before).not_gt
  · rcases List.mem_cons.mp rest with rfl | inside
    · rw [time] at later
      exact absurd later (lt_irrefl _)
    · exact ⟨sample, List.mem_filterMap.mpr ⟨record, inside, sampled⟩, later⟩

/-- A valve is inhibited only for what the reports show, and while the relay of its zone stays on it
is judged again only after an inhibition of it ended. -/
theorem Run.inhibitions_sound {history past later : List Record} {daemon : Daemon}
    {record : Record} (run : Run history daemon) (split : history = past ++ record :: later)
    {config : HeatingConfig} {zone : HeatingZone} {device : String}
    (heating : record.env.topology.heatingConfig = some config) (listed : zone ∈ config.zones)
    (member : device ∈ zone.trvs.map (·.device)) :
    (record.Inhibits device → InhibitedFor config zone device past record) ∧
      (record.Judges device → ∀ early first rest, past = early ++ first :: rest →
        first.Judges device → first.after.relayOn zone.name = true →
          (∀ other ∈ rest, ¬ other.TurnsOff zone.name) →
            ∃ other ∈ rest, other.EndsInhibition device) := by
  obtain ⟨admissible, _, ⟨relays, _⟩, topologies, windows⟩ :=
    run.each_record detection_follows split
  have follows := windows config heating zone listed device member
  have valid := record.env.topology.valid.heating_valid config heating
  refine ⟨fun inhibits => ?_, fun judges early first rest before earlier on still => ?_⟩
  · obtain ⟨other, controls, detects⟩ := inhibits.detects admissible
    have known : record.env.topology.heatingConfig = some other := by
      rw [controls] at admissible
      exact admissible
    rw [heating] at known
    cases known
    obtain ⟨free, inhibited⟩ := inhibits
    generalize record.after.world.trvAt device = after at detects inhibited
    cases detects with
    | judged unchecked =>
        have same : (record.before.world.trvAt device).checked.isInhibited record.env.clock.now =
          (record.before.world.trvAt device).isInhibited record.env.clock.now := rfl
        rw [same, free] at inhibited
        cases inhibited
    | @inhibited home entity since start last baseline stop tickGen homeListed homeMember stored
        on turnedOn long demand unchecked based started sampled after cold =>
        have same := HeatingConfig.zone_of_trv_unique valid homeListed listed homeMember member
        subst same
        refine ⟨⟨since, ?_, relays home.name since ?_ ?_⟩, demand, ?_⟩
        · have positive : 0 < config.openWindow.detection :=
            Nat.mul_pos (Nat.mul_pos valid.detection_pos (by decide)) (by decide)
          exact Nat.add_le_of_le_sub' (Nat.lt_of_sub_pos (positive.trans_le long)).le long
        · exact (record.before.relayOn_eq_true_iff home.name).mpr ⟨entity, stored, on⟩
        · unfold Runtime.relayOnSince WorldState.heatingZoneAt
          rw [stored]
          exact turnedOn
        · obtain ⟨early, begin, cycle, before, time, goes⟩ := follows.cycle start started
          have ordered : ∀ other ∈ early, other.env.clock.now ≤ begin.env.clock.now := by
            have split' : history = early ++ begin :: (cycle ++ record :: later) := by
              rw [split, before]
              simp
            exact (run.each_record detection_follows split').2.1
          have picked := follows.lastTempAt.symm.trans sampled
          rw [before] at picked
          refine ⟨early, begin, cycle, baseline, before, goes.starts, goes.goesOn,
            goes.based.symm.trans based, sample_of_cycle ordered picked (time ▸ after), ?_⟩
          intro sample inside
          obtain ⟨high, known, below⟩ := goes.bounded sample inside
          have known : (record.before.world.trvAt device).openWindow.tempHighWater = some high :=
            known
          rw [known, Option.getD_some] at cold
          exact below.trans cold
  · obtain ⟨other, inside, renewed⟩ := follows.unchecked judges.1 early first rest before earlier
    obtain ⟨front, back, parts⟩ := List.append_of_mem inside
    have split' : history = (early ++ first :: front) ++ other :: (back ++ record :: later) := by
      rw [split, before, parts]
      simp
    obtain ⟨fits, _, ⟨_, stays⟩, _⟩ := run.each_record detection_follows split'
    have same : other.env.topology = record.env.topology :=
      topologies other (by simp [before, inside])
    have lit := stays zone.name early first front rfl on
      fun later member => still later (by simp [parts, member])
    exact ⟨other, inside, Record.endsInhibition (by rw [same]; exact heating) fits listed member lit
      (still other inside) renewed⟩

namespace House

/-- The relay upstairs turns on, and no valve warms up. -/
def coldRoom (first : Nat × Input) : List (Nat × Input) :=
  [relay "relay-up" false 0, (0, .start), tick 1, first, valve "valve-down" (some 80) (some 21) 2,
    tick 310, relay "relay-up" true 311, coldValve 400, tick 1511]
where
  /-- The valve upstairs reports demand and a temperature. -/
  coldValve (seconds : Nat) : Nat × Input :=
    (seconds, .event (.trvState "valve-up" (some 18) (some 80) none (some 21) none none none
      (Duration.fromSecs seconds)))

/-- The valve upstairs is judged. -/
def judgesUp (record : Record) : Bool :=
  !(record.before.world.trvAt "valve-up").openWindow.checked &&
    (record.after.world.trvAt "valve-up").openWindow.checked

/-- The valve upstairs becomes inhibited. -/
def inhibitsUp (record : Record) : Bool :=
  !(record.before.world.trvAt "valve-up").isInhibited record.env.clock.now &&
    (record.after.world.trvAt "valve-up").isInhibited record.env.clock.now

theorem judges_of_judgesUp {record : Record} (judges : judgesUp record = true) :
    record.Judges "valve-up" := by
  rw [judgesUp, Bool.and_eq_true, Bool.not_eq_true'] at judges
  exact judges

theorem inhibits_of_inhibitsUp {record : Record} (inhibits : inhibitsUp record = true) :
    record.Inhibits "valve-up" := by
  rw [inhibitsUp, Bool.and_eq_true, Bool.not_eq_true'] at inhibits
  exact inhibits

end House

/-- The valve upstairs stays at 18 degrees while the relay is on. -/
theorem Run.inhibitions_sound_paired : ∃ (history past later : List Record) (daemon : Daemon)
    (record : Record) (zone : HeatingZone), Run history daemon ∧
      history = past ++ record :: later ∧ record.Inhibits "valve-up" ∧
        InhibitedFor House.pairedHeating zone "valve-up" past record := by
  obtain ⟨daemon, history, run, same, facts⟩ := House.played_paired
    (House.coldRoom (House.coldRoom.coldValve 2))
    (by simp [House.coldRoom, House.coldRoom.coldValve, House.relay, House.valve, House.tick])
    (fun reached : Daemon × List Record => (reached.2[24]?).any House.inhibitsUp)
    true (by decide +kernel)
  obtain ⟨record, found, inhibits⟩ := (Option.any_eq_true _ _).mp facts
  have split := split_at found
  have member : record ∈ history := List.mem_of_getElem? found
  have heating : record.env.topology.heatingConfig = some House.pairedHeating := by
    have here := same record member
    change record.env.toAutomation.topology.heatingConfig = _
    rw [here]
    rfl
  have listed : ⟨"upstairs", "relay-up", [⟨"valve-up", "week"⟩, ⟨"valve-down", "week"⟩]⟩ ∈
      House.pairedHeating.zones := List.mem_singleton_self _
  have valve : "valve-up" ∈ ["valve-up", "valve-down"] := by simp
  have sound := Run.inhibitions_sound run split heating listed valve
  exact ⟨history, _, _, daemon, record, _, run, split, House.inhibits_of_inhibitsUp inhibits,
    sound.1 (House.inhibits_of_inhibitsUp inhibits)⟩

/-- The one temperature of a valve inhibits it, and when the inhibition has ended the valve is
judged again, while the relay stays on. -/
theorem Run.inhibitions_sound_fails : ∃ (history past between later : List Record)
    (daemon : Daemon) (first second : Record), Run history daemon ∧
      history = past ++ first :: (between ++ second :: later) ∧
        first.Inhibits "valve-up" ∧ (past.filterMap (·.sample "valve-up")).length = 1 ∧
          first.after.relayOn "upstairs" = true ∧
            (∀ other ∈ between, ¬ other.TurnsOff "upstairs") ∧ first.Judges "valve-up" ∧
              second.Judges "valve-up" := by
  obtain ⟨daemon, history, run, same, facts⟩ := House.played_paired
    (House.coldRoom (House.valve "valve-up" (some 80) (some 21) 2) ++ [House.tick 3311])
    (by simp [House.coldRoom, House.coldRoom.coldValve, House.relay, House.valve, House.tick])
    (fun reached : Daemon × List Record =>
      (((reached.2[24]?).any fun record : Record => House.inhibitsUp record &&
        House.judgesUp record && record.after.relayOn "upstairs") &&
        ((reached.2.drop 25)[5]?).any House.judgesUp,
        (((reached.2.take 24).filterMap (·.sample "valve-up")).length,
          ((reached.2.drop 25).take 5).all fun record : Record =>
            record.operation.relayReport.isNone)))
    (true, (1, true)) (by decide +kernel)
  simp only [Prod.mk.injEq, Bool.and_eq_true] at facts
  obtain ⟨⟨early, late⟩, single, silent⟩ := facts
  obtain ⟨first, found, judged⟩ := (Option.any_eq_true _ _).mp early
  obtain ⟨second, next, again⟩ := (Option.any_eq_true _ _).mp late
  rw [Bool.and_eq_true, Bool.and_eq_true] at judged
  refine ⟨history, history.take 24, (history.drop 25).take 5, (history.drop 25).drop 6, daemon,
    first, second, run, ?_, House.inhibits_of_inhibitsUp judged.1.1, single, judged.2, ?_,
    House.judges_of_judgesUp judged.1.2, House.judges_of_judgesUp again⟩
  · exact (split_at found).trans (congrArg (fun rest => history.take 24 ++ first :: rest)
      (split_at next))
  · rintro other member ⟨zone, off, _⟩
    have none := List.all_eq_true.mp silent other member
    rw [off] at none
    cases none

end MqttController
