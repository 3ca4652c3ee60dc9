import MqttController.Automation

/-!
# Plugs and kill switches

A kill switch turns its plug off when the power stays below a threshold for a holdoff.  It is armed
by the plug turning on or by a reading above the threshold, and suppressed after it fired.
-/

namespace MqttController

/-- What a kill switch watches for and the plug it turns off. -/
structure KillSwitchRule where
  name : String
  thresholdWatts : ℚ
  holdoff : Duration
  target : Option String

namespace KillSwitchRule

/-- Take a reading through the rules in order, until one fires. -/
def scan (power : ℚ) (ts : Instant) :
    List KillSwitchRule → NameMap KillSwitchRuleState → NameMap KillSwitchRuleState × List String
  | [], states => (states, [])
  | rule :: rest, states =>
      let state := (states[rule.name]?).getD .inactive
      if power < rule.thresholdWatts then
        match state with
        | .idle since =>
            if durationSince ts since ≥ rule.holdoff then
              (states.insert rule.name state, rule.target.toList)
            else scan power ts rest (states.insert rule.name state)
        | .armed => scan power ts rest (states.insert rule.name (.idle ts))
        | .inactive => scan power ts rest (states.insert rule.name .inactive)
        | .suppressed => scan power ts rest (states.insert rule.name .suppressed)
      else scan power ts rest (states.insert rule.name .armed)

/-- Arm one rule, or start its holdoff when the power is already below the threshold. -/
def arm (power : Option ℚ) (ts : Instant) (states : NameMap KillSwitchRuleState)
    (rule : KillSwitchRule) : NameMap KillSwitchRuleState :=
  match (states[rule.name]?).getD .inactive with
  | .suppressed => states.insert rule.name .suppressed
  | .armed => states.insert rule.name .armed
  | _ =>
      if power.any fun current => decide (current < rule.thresholdWatts) then
        states.insert rule.name (.idle ts)
      else states.insert rule.name .armed

end KillSwitchRule

namespace PlugEntity

/-- Confirm a command that the last report shows. -/
def maybeConfirm (plug : PlugEntity) (ts : Instant) : PlugEntity :=
  let shown := match plug.target.value, plug.actual.value with
    | some .on, some actual => actual.on
    | some .off, some actual => !actual.on
    | _, _ => false
  if (plug.target.phase == .commanded || plug.target.phase == .stale) && shown then
    { plug with target := plug.target.confirm ts }
  else plug

/-- Set the target and mark it commanded; turning off clears the kill switches. -/
def command (plug : PlugEntity) (value : PlugTarget) (owner : Owner) (ts : Instant) :
    PlugEntity :=
  let commanded := { plug with target := plug.target.setAndCommand value owner ts }
  match value with
  | .on => commanded
  | .off => commanded.onOffClearKillSwitches

end PlugEntity

/-- Turn one plug off because its kill switch fired. -/
def WorldState.killPlug (ts : Instant) (world : WorldState) (target : String) : WorldState :=
  world.modifyPlug target fun plug => plug.command .off .rule ts

namespace Env

variable (env : Env)

/-- The kill switch a power-below binding describes. -/
def killSwitchRule (binding : ResolvedBinding) : Option KillSwitchRule :=
  match binding.trigger with
  | .powerBelow _ watts holdoff =>
      some { name := binding.name, thresholdWatts := watts, holdoff
             target := binding.effect.targetPlug.map env.topology.deviceName }
  | _ => none

/-- Effective kill switches of a plug; none for an unknown device. -/
def killSwitchRules (device : String) : List KillSwitchRule :=
  match env.topology.deviceIdx device with
  | none => []
  | some idx => (env.powerBelowBindings idx).filterMap env.killSwitchRule

/-- Suppress the rules of a device whose kill switch fired and turn off the targets. -/
def applyKillSwitchFired (device : String) (fired : List String) (ts : Instant)
    (world : WorldState) : WorldState × List Effect :=
  match fired with
  | [] => (world, [])
  | target :: rest =>
      ((target :: rest).foldl (WorldState.killPlug ts)
        (world.modifyPlug device fun plug => plug.suppressAllKillSwitches),
        ((target :: rest).filterMap env.topology.deviceIdx).map fun idx =>
          .publishDeviceSet idx .deviceOff)

/-- Take a power reading through the kill switches of a plug. -/
def evaluateKillSwitch (device : String) (power : ℚ) (ts : Instant) (world : WorldState) :
    WorldState × List Effect :=
  match env.killSwitchRules device with
  | [] => (world, [])
  | first :: rest =>
      match KillSwitchRule.scan power ts (first :: rest) (world.plugAt device).killSwitchRules with
      | (states, fired) =>
          env.applyKillSwitchFired device fired ts
            (world.modifyPlug device fun plug => { plug with killSwitchRules := states })

/-- Arm the kill switches of a plug. -/
def armKillSwitchRules (device : String) (power : Option ℚ) (ts : Instant)
    (world : WorldState) : WorldState :=
  match env.topology.deviceIdx device with
  | none => world
  | some _ =>
      world.modifyPlug device fun plug =>
        { plug with
          killSwitchRules := (env.killSwitchRules device).foldl (KillSwitchRule.arm power ts)
            plug.killSwitchRules }

/-- Handle a report of a plug's relay, its power, or both. -/
def handlePlugState (device : String) (on : Option Bool) (power : Option ℚ) (ts : Instant)
    (world : WorldState) : WorldState × List Effect :=
  let power := power.map fun watts => max watts 0
  let before := world.plugAt device
  let observed := world.modifyPlug device fun plug => plug.observe on power ts
  if on = some false then
    (observed.modifyPlug device fun plug => plug.onOffClearKillSwitches.maybeConfirm ts, [])
  else if !(observed.plugAt device).isOn then (observed, [])
  else
    let armed :=
      if on = some true ∧ (!before.isOn ∨ before.actual.freshness = .unknown) then
        env.armKillSwitchRules device power ts observed
      else observed
    let confirmed :=
      if on.isSome then armed.modifyPlug device fun plug => plug.maybeConfirm ts else armed
    match power.or (confirmed.plugAt device).power.value with
    | none => (confirmed, [])
    | some watts => env.evaluateKillSwitch device watts ts confirmed

/-- The plug and the target of a kill switch whose holdoff has elapsed. -/
def killSwitchDue (ts : Instant) (world : WorldState) (binding : ResolvedBinding) :
    Option (String × String) :=
  match binding.trigger with
  | .powerBelow plug _ holdoff =>
      let device := env.topology.deviceName plug
      match world.plugs[device]? with
      | none => none
      | some entity =>
          match entity.killSwitchRules[binding.name]? with
          | some (.idle since) =>
              if entity.isOn ∧ durationSince ts since ≥ holdoff then
                binding.effect.targetPlug.map fun target =>
                  (device, env.topology.deviceName target)
              else none
          | _ => none
  | _ => none

/-- Fire the kill switches whose holdoff has elapsed. -/
def evaluateKillSwitchTicks (ts : Instant) (world : WorldState) : WorldState × List Effect :=
  Emission.forEach (fun due => env.applyKillSwitchFired due.1 [due.2] ts)
    (env.effectiveBindings.filterMap (env.killSwitchDue ts world)) world

/-- Arm the kill switches of every plug reported on. -/
def armKillSwitchesForActivePlugs (ts : Instant) (world : WorldState) : WorldState :=
  (world.plugs.toList.filter fun entry => entry.2.actual.value.any (·.on)).foldl
    (fun world entry => env.armKillSwitchRules entry.1 entry.2.power.value ts world) world

/-- Dashboard: switch a plug. -/
def webSetPlugPower (device : String) (on : Bool) (ts : Instant) (world : WorldState) :
    WorldState × List Effect :=
  match env.topology.deviceIdx device with
  | none => (world, [])
  | some idx =>
      if !env.topology.isPlugIdx idx then (world, [])
      else
        (world.modifyPlug device fun plug =>
          { plug with target := plug.target.setAndCommand (if on then .on else .off) .webUI ts },
          [.publishDeviceSet idx (if on then .deviceOn else .deviceOff)])

end Env

end MqttController
