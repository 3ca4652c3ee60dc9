import Mathlib.Data.List.Basic
import MqttController.Lib.OrderedMap
import MqttController.Time

/-!
# Time expressions and scene schedules

A room's scenes are organised in slots, ranges of the local day with their own scene order.  Slot
boundaries are fixed times, sun-relative times, or the later or earlier of two expressions.
-/

namespace MqttController

open Std

/-- A map keyed by names, iterated in name order. -/
abbrev NameMap (α : Type) := TreeMap String α

/-- Sunrise or sunset. -/
inductive SunEvent
  | sunrise
  | sunset
  deriving DecidableEq, Repr

/-- A time of day, fixed or depending on the sun. -/
inductive TimeExpr
  | fixed (minuteOfDay : Nat)
  | sunRelative (event : SunEvent) (offsetMinutes : Int)
  | max (first second : TimeExpr)
  | min (first second : TimeExpr)
  deriving DecidableEq, Repr

namespace TimeExpr

/-- The minute of the day an expression stands for.  Where `resolvePanics` holds the source panics,
and a sun-relative expression resolves to midnight here. -/
def resolve (sun : Option SunTimes) : TimeExpr → Nat
  | fixed minuteOfDay => minuteOfDay
  | sunRelative event offsetMinutes =>
      match sun with
      | none => 0
      | some times =>
          let base := match event with
            | .sunrise => times.sunriseMinuteOfDay
            | .sunset => times.sunsetMinuteOfDay
          (Max.max 0 (Min.min 1440 ((base : Int) + offsetMinutes))).toNat
  | max first second => Max.max (first.resolve sun) (second.resolve sun)
  | min first second => Min.min (first.resolve sun) (second.resolve sun)

/-- Resolving panics: a part is sun-relative and there are no sun times. -/
def resolvePanics (sun : Option SunTimes) : TimeExpr → Bool
  | fixed _ => false
  | sunRelative _ _ => sun.isNone
  | max first second => first.resolvePanics sun || second.resolvePanics sun
  | min first second => first.resolvePanics sun || second.resolvePanics sun

/-- A trigger may use every expression but a fixed time from 24:00 on. -/
def isValidTriggerTime : TimeExpr → Bool
  | fixed minuteOfDay => decide (minuteOfDay < 1440)
  | _ => true

/-- A fixed time after 24:00. -/
def exceedsDay : TimeExpr → Bool
  | fixed minuteOfDay => decide (1440 < minuteOfDay)
  | _ => false

/-- Some part of the expression is sun-relative. -/
def usesSun : TimeExpr → Bool
  | fixed _ => false
  | sunRelative _ _ => true
  | max first second => first.usesSun || second.usesSun
  | min first second => first.usesSun || second.usesSun

/-- Without sun times the sun-relative expressions panic. -/
theorem resolvePanics_none (time : TimeExpr) : time.resolvePanics none = time.usesSun := by
  induction time with
  | fixed minuteOfDay => rfl
  | sunRelative event offsetMinutes => rfl
  | max first second first_ih second_ih => rw [resolvePanics, usesSun, first_ih, second_ih]
  | min first second first_ih second_ih => rw [resolvePanics, usesSun, first_ih, second_ih]

/-- Two digits, zero padded. -/
def twoDigits (number : Nat) : String :=
  if number < 10 then "0" ++ toString number else toString number

/-- The text form of an expression. -/
def display : TimeExpr → String
  | fixed minuteOfDay => twoDigits (minuteOfDay / 60) ++ ":" ++ twoDigits (minuteOfDay % 60)
  | sunRelative event offsetMinutes =>
      let name := match event with
        | .sunrise => "sunrise"
        | .sunset => "sunset"
      if offsetMinutes = 0 then name
      else
        let sign := if offsetMinutes > 0 then "+" else "-"
        name ++ sign ++ twoDigits (offsetMinutes.natAbs / 60) ++ ":" ++
          twoDigits (offsetMinutes.natAbs % 60)
  | max first second => "max(" ++ first.display ++ ", " ++ second.display ++ ")"
  | min first second => "min(" ++ first.display ++ ", " ++ second.display ++ ")"

end TimeExpr

/-- One scene of a group. -/
structure Scene where
  /-- Scene id local to its group. -/
  id : Nat
  /-- Display name. -/
  name : String
  /-- `ON` or `OFF`. -/
  state : String
  /-- Brightness the scene sets, if any. -/
  brightness : Option Nat
  /-- Colour temperature the scene sets, if any. -/
  colorTemp : Option Nat
  /-- Transition in seconds. -/
  transition : ℚ
  deriving DecidableEq

/-- One slot of the day: `start` is inclusive, `stop` exclusive, and the range may wrap midnight. -/
structure Slot where
  /-- First minute of the slot. -/
  start : TimeExpr
  /-- First minute after the slot. -/
  stop : TimeExpr
  /-- The scenes in cycle order. -/
  sceneIds : List Nat
  deriving DecidableEq, Repr

namespace Slot

/-- Whether a local time falls in the slot. -/
def containsTime (slot : Slot) (hour minute : Nat) (sun : Option SunTimes) : Bool :=
  let start := slot.start.resolve sun
  let stop := slot.stop.resolve sun
  let now := hour * 60 + minute
  if start ≤ stop then decide (start ≤ now) && decide (now < stop)
  else decide (start ≤ now) || decide (now < stop)

/-- A boundary is sun-relative. -/
def usesSun (slot : Slot) : Bool := slot.start.usesSun || slot.stop.usesSun

end Slot

/-- The scenes of a room and the slots that order them. -/
structure SceneSchedule where
  /-- Every scene of the group. -/
  scenes : List Scene
  /-- The slots by name. -/
  slots : NameMap Slot

/-- Why a scene schedule is rejected. -/
inductive SceneScheduleError
  | fromOutOfRange (name : String) (expr : String)
  | toOutOfRange (name : String) (expr : String)
  | unknownSceneId (name : String) (id : Nat)
  | incompleteCoverage (count : Nat) (uncovered : Nat)
  | overlappingSlots (minute : Nat) (slots : List String)
  | slotSetChanged (expected actual : List String)
  deriving DecidableEq, Repr

/-- The first slot in name order that contains the local time. -/
def slotForTime (slots : NameMap Slot) (hour minute : Nat) (sun : Option SunTimes) :
    Option (String × Slot) :=
  slots.toList.find? fun entry => entry.2.containsTime hour minute sun

namespace SceneSchedule

/-- The first scene with an id. -/
def sceneById (schedule : SceneSchedule) (id : Nat) : Option Scene :=
  schedule.scenes.find? fun scene => scene.id == id

/-- Some slot boundary is sun-relative. -/
def usesSunExpressions (schedule : SceneSchedule) : Bool :=
  OrderedMap.anyValue schedule.slots Slot.usesSun

/-- What is wrong with one slot on its own. -/
def slotError (schedule : SceneSchedule) (name : String) (slot : Slot) :
    Option SceneScheduleError :=
  if slot.start.exceedsDay then some (.fromOutOfRange name slot.start.display)
  else if slot.stop.exceedsDay then some (.toOutOfRange name slot.stop.display)
  else
    (slot.sceneIds.find? fun id => !(schedule.scenes.any fun scene => scene.id == id)).map
      fun id => .unknownSceneId name id

/-- The names of the slots that cover a minute of the day. -/
def owners (schedule : SceneSchedule) (sun : Option SunTimes) (minute : Nat) : List String :=
  (schedule.slots.toList.filter fun entry =>
    entry.2.containsTime (minute / 60) (minute % 60) sun).map Prod.fst

/-- Every minute of the day is covered by exactly one slot. -/
def validateCoverage (schedule : SceneSchedule) (sun : Option SunTimes) :
    Except SceneScheduleError Unit :=
  match (List.range 1440).find? fun minute => decide (1 < (schedule.owners sun minute).length) with
  | some minute => .error (.overlappingSlots minute (schedule.owners sun minute))
  | none =>
      let uncovered := (List.range 1440).countP fun minute => (schedule.owners sun minute).isEmpty
      if 0 < uncovered then .error (.incompleteCoverage schedule.slots.size uncovered)
      else .ok ()

/-- Scene ids are known, fixed boundaries are in range, and fixed slots tile the day. -/
def validate (schedule : SceneSchedule) : Except SceneScheduleError Unit :=
  match schedule.slots.toList.findSome? fun entry => schedule.slotError entry.1 entry.2 with
  | some error => .error error
  | none => if schedule.usesSunExpressions then .ok () else schedule.validateCoverage none

/-- Validation resolves a boundary that it has no sun times for. -/
def validatePanics (schedule : SceneSchedule) : Bool :=
  (schedule.slots.toList.findSome? fun entry => schedule.slotError entry.1 entry.2).isNone &&
    !schedule.usesSunExpressions &&
      OrderedMap.anyValue schedule.slots fun slot =>
        slot.start.resolvePanics none || slot.stop.resolvePanics none

/-- Validation resolves fixed boundaries only. -/
theorem validatePanics_eq_false (schedule : SceneSchedule) : schedule.validatePanics = false := by
  have same : (fun slot : Slot => slot.start.resolvePanics none || slot.stop.resolvePanics none) =
      Slot.usesSun := by
    funext slot
    rw [TimeExpr.resolvePanics_none, TimeExpr.resolvePanics_none, Slot.usesSun]
  unfold validatePanics usesSunExpressions
  rw [same]
  cases OrderedMap.anyValue schedule.slots Slot.usesSun with
  | true => simp
  | false => simp

/-- Replacement slots keep the slot names and pass the same checks. -/
def validateReplacementSlots (schedule : SceneSchedule) (slots : NameMap Slot) :
    Except SceneScheduleError Unit :=
  if slots.keys ≠ schedule.slots.keys then
    .error (.slotSetChanged schedule.slots.keys slots.keys)
  else validate { schedule with slots := slots }

/-- A schedule that passes validation names only scenes it has. -/
theorem scene_known_of_validate {schedule : SceneSchedule} (valid : schedule.validate = .ok ())
    {name : String} {slot : Slot} (found : schedule.slots[name]? = some slot) {id : Nat}
    (listed : id ∈ slot.sceneIds) : ∃ scene ∈ schedule.scenes, scene.id = id := by
  unfold validate at valid
  split at valid
  · cases valid
  · rename_i noError
    rw [List.findSome?_eq_none_iff] at noError
    have clean := noError (name, slot) (TreeMap.mem_toList_iff_getElem?_eq_some.mpr found)
    simp only [slotError] at clean
    split at clean
    · cases clean
    · split at clean
      · cases clean
      · rw [Option.map_eq_none_iff, List.find?_eq_none] at clean
        have known := clean id listed
        simpa [List.any_eq_true] using known

end SceneSchedule

/-- The slot that answers a lookup is one of the slots. -/
theorem getElem?_of_slotForTime {slots : NameMap Slot} {hour minute : Nat}
    {sun : Option SunTimes} {name : String} {slot : Slot}
    (active : slotForTime slots hour minute sun = some (name, slot)) :
    slots[name]? = some slot :=
  TreeMap.mem_toList_iff_getElem?_eq_some.mp (List.mem_of_find?_eq_some active)

end MqttController
