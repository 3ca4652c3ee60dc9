import MqttController.Config.Scenes
import MqttController.Lib.Text

/-!
# Time expressions as text

Time expressions are configured and stored as text.  What the parser accepts is printed in a normal
form, which the parser reads as the same expression.
-/

namespace MqttController

open Text

/-- Why a text is no time expression; each error shows the text. -/
inductive ParseTimeExprError
  | expectedHhmm (text : List Char)
  | invalidHour (text : List Char)
  | invalidMinute (text : List Char)
  | outOfRange (text : List Char)
  | expectedOffset (text : List Char) (event : SunEvent)
  | missingClosingParenthesis (text : List Char)
  | expectedTwoArguments (text : List Char)
  deriving DecidableEq, Repr

/-- A decimal digit. -/
def digitValue (letter : Char) : Option Nat :=
  if '0' ≤ letter ∧ letter ≤ '9' then some (letter.toNat - '0'.toNat) else none

/-- The number that digits stand for, if it fits a byte. -/
def parseDigits : List Char → Nat → Option Nat
  | [], number => some number
  | letter :: rest, number =>
      match digitValue letter with
      | none => none
      | some digit =>
          if number * 10 + digit ≤ 255 then parseDigits rest (number * 10 + digit) else none

/-- A byte: digits with an optional plus sign. -/
def parseByte (text : List Char) : Option Nat :=
  match (stripPrefix ['+'] text).getD text with
  | [] => none
  | letter :: rest => parseDigits (letter :: rest) 0

/-- White space. -/
def isWhitespace (letter : Char) : Bool :=
  let code := letter.toNat
  decide (9 ≤ code ∧ code ≤ 13) || code == 0x20 || code == 0x85 || code == 0xA0 || code == 0x1680 ||
    decide (0x2000 ≤ code ∧ code ≤ 0x200A) || code == 0x2028 || code == 0x2029 || code == 0x202F ||
    code == 0x205F || code == 0x3000

namespace SunEvent

/-- The name of an event. -/
def name : SunEvent → List Char
  | sunrise => ['s', 'u', 'n', 'r', 'i', 's', 'e']
  | sunset => ['s', 'u', 'n', 's', 'e', 't']

end SunEvent

namespace TimeExpr

/-- Hours and minutes, `00:00` through `24:00`. -/
def parseHhmm (text : List Char) : Except ParseTimeExprError (Nat × Nat) :=
  match splitOnce [':'] text with
  | none => .error (.expectedHhmm text)
  | some (hh, mm) =>
      match parseByte hh with
      | none => .error (.invalidHour text)
      | some hour =>
          match parseByte mm with
          | none => .error (.invalidMinute text)
          | some minute =>
              if 24 < hour ∨ (hour = 24 ∧ 0 < minute) ∨ 59 < minute then .error (.outOfRange text)
              else .ok (hour, minute)

/-- What follows the name of an event: nothing, or a signed offset. -/
def parseOffset (text : List Char) (event : SunEvent) (rest : List Char) :
    Except ParseTimeExprError TimeExpr :=
  if rest.isEmpty then .ok (sunRelative event 0)
  else
    match stripPrefix ['+'] rest with
    | some hhmm => (parseHhmm hhmm).map fun time => sunRelative event (time.1 * 60 + time.2)
    | none =>
        match stripPrefix ['-'] rest with
        | some hhmm => (parseHhmm hhmm).map fun time => sunRelative event (-(time.1 * 60 + time.2))
        | none => .error (.expectedOffset text event)

/-- A single time, fixed or relative to the sun. -/
def parseAtom (text : List Char) : Except ParseTimeExprError TimeExpr :=
  match stripPrefix SunEvent.sunrise.name text with
  | some rest => parseOffset text .sunrise rest
  | none =>
      match stripPrefix SunEvent.sunset.name text with
      | some rest => parseOffset text .sunset rest
      | none => (parseHhmm text).map fun time => fixed (time.1 * 60 + time.2)

/-- The later or the earlier of two times. -/
inductive Choice
  | max
  | min
  deriving DecidableEq, Repr

namespace Choice

/-- What a choice begins with. -/
def opening : Choice → List Char
  | max => ['m', 'a', 'x', '(']
  | min => ['m', 'i', 'n', '(']

/-- The expression of a choice. -/
def build : Choice → TimeExpr → TimeExpr → TimeExpr
  | max => TimeExpr.max
  | min => TimeExpr.min

end Choice

/-- The choice that a text begins with, and what follows. -/
def stripChoice (text : List Char) : Option (Choice × List Char) :=
  match stripPrefix Choice.max.opening text with
  | some rest => some (.max, rest)
  | none => (stripPrefix Choice.min.opening text).map fun rest => (.min, rest)

/-- The two arguments before the closing parenthesis, split at the first comma. -/
def parseArguments (text rest : List Char) :
    Except ParseTimeExprError (List Char × List Char) :=
  match stripSuffix [')'] rest with
  | none => .error (.missingClosingParenthesis text)
  | some inner =>
      match splitOnce [',', ' '] inner with
      | none => .error (.expectedTwoArguments text)
      | some (left, right) => .ok (trim isWhitespace left, trim isWhitespace right)

theorem eq_of_stripChoice {text rest : List Char} {choice : Choice}
    (stripped : stripChoice text = some (choice, rest)) : text = choice.opening ++ rest := by
  unfold stripChoice at stripped
  split at stripped
  · next first =>
      cases stripped
      exact eq_append_of_stripPrefix first
  · obtain ⟨tail, second, same⟩ := Option.map_eq_some_iff.mp stripped
    cases same
    exact eq_append_of_stripPrefix second

/-- The arguments are parts of the text, and the first is one that was split off. -/
theorem of_parseArguments {text rest left right : List Char}
    (parsed : parseArguments text rest = .ok (left, right)) :
    left.length < rest.length ∧ right.length < rest.length ∧ ¬ [',', ' '] <:+: left := by
  unfold parseArguments at parsed
  split at parsed
  · cases parsed
  · next inner stripped =>
      split at parsed
      · cases parsed
      · next first second split =>
          cases parsed
          have whole := eq_append_of_stripSuffix stripped
          obtain ⟨parts, absent⟩ := of_splitOnce split (by simp)
          have left := trim_infix isWhitespace first
          have right := trim_infix isWhitespace second
          have length : rest.length = first.length + 2 + second.length + 1 := by
            rw [whole, parts]
            simp
            omega
          refine ⟨?_, ?_, fun inside => absent (inside.trans left)⟩
          · have bound := left.length_le
            omega
          · have bound := right.length_le
            omega

theorem parseArguments_shorter {text rest left right : List Char} {choice : Choice}
    (stripped : stripChoice text = some (choice, rest))
    (arguments : parseArguments text rest = .ok (left, right)) :
    left.length < text.length ∧ right.length < text.length := by
  have shorter := of_parseArguments arguments
  have whole := congrArg List.length (eq_of_stripChoice stripped)
  rw [List.length_append] at whole
  omega

/-- Read a time expression. -/
def parse (text : List Char) : Except ParseTimeExprError TimeExpr :=
  match stripped : stripChoice text with
  | none => parseAtom text
  | some (choice, rest) =>
      match arguments : parseArguments text rest with
      | .error error => .error error
      | .ok (left, right) =>
          have := parseArguments_shorter stripped arguments
          match parse left with
          | .error error => .error error
          | .ok first =>
              match parse right with
              | .error error => .error error
              | .ok second => .ok (choice.build first second)
termination_by text.length
decreasing_by
  · omega
  · omega

/-- Read a time expression from a string. -/
def ofString (text : String) : Except ParseTimeExprError TimeExpr := parse text.toList

theorem parse_of_atom {text : List Char} (atom : stripChoice text = none) :
    parse text = parseAtom text := by
  rw [parse]
  split
  · rfl
  · next choice rest stripped =>
      rw [atom] at stripped
      cases stripped

theorem parse_of_choice {text rest left right : List Char} {choice : Choice}
    {first second : TimeExpr} (stripped : stripChoice text = some (choice, rest))
    (arguments : parseArguments text rest = .ok (left, right)) (readLeft : parse left = .ok first)
    (readRight : parse right = .ok second) : parse text = .ok (choice.build first second) := by
  rw [parse]
  split
  · next none =>
      rw [stripped] at none
      cases none
  · next other tail again =>
      rw [stripped] at again
      cases again
      split
      · next error failed =>
          rw [arguments] at failed
          cases failed
      · next before after split =>
          rw [arguments] at split
          cases split
          rw [readLeft, readRight]

/-! ## What the parser yields -/

/-- A time within the day, and an offset of a day at most. -/
def IsAtom : TimeExpr → Prop
  | fixed minuteOfDay => minuteOfDay ≤ 1440
  | sunRelative _ offsetMinutes => offsetMinutes.natAbs ≤ 1440
  | max _ _ | min _ _ => False

/-- The first argument of every choice is an atom. -/
def Normal : TimeExpr → Prop
  | max first second | min first second => first.IsAtom ∧ second.Normal
  | atom => atom.IsAtom

theorem IsAtom.normal {expr : TimeExpr} (atom : expr.IsAtom) : expr.Normal := by
  cases expr with
  | fixed minuteOfDay => exact atom
  | sunRelative event offsetMinutes => exact atom
  | max first second => exact atom.elim
  | min first second => exact atom.elim

theorem of_parseHhmm {text : List Char} {time : Nat × Nat} (parsed : parseHhmm text = .ok time) :
    time.1 * 60 + time.2 ≤ 1440 := by
  unfold parseHhmm at parsed
  split at parsed
  · cases parsed
  · split at parsed
    · cases parsed
    · split at parsed
      · cases parsed
      · split at parsed
        · cases parsed
        · cases parsed
          dsimp only
          omega

theorem of_parseOffset {text rest : List Char} {event : SunEvent} {expr : TimeExpr}
    (parsed : parseOffset text event rest = .ok expr) : expr.IsAtom := by
  have offset {hhmm : List Char} (sign : Nat × Nat → Int)
      (bound : ∀ time, (sign time).natAbs = time.1 * 60 + time.2)
      (parsed : ((parseHhmm hhmm).map fun time => sunRelative event (sign time)) = .ok expr) :
      expr.IsAtom := by
    cases read : parseHhmm hhmm with
    | error error =>
        rw [read] at parsed
        cases parsed
    | ok time =>
        rw [read] at parsed
        cases parsed
        have within := of_parseHhmm read
        change (sign time).natAbs ≤ 1440
        rw [bound]
        exact within
  unfold parseOffset at parsed
  split at parsed
  · cases parsed
    exact Nat.zero_le _
  · split at parsed
    · refine offset (fun time => time.1 * 60 + time.2) ?_ parsed
      intro time
      omega
    · split at parsed
      · refine offset (fun time => -(time.1 * 60 + time.2)) ?_ parsed
        intro time
        omega
      · cases parsed

theorem of_parseAtom {text : List Char} {expr : TimeExpr} (parsed : parseAtom text = .ok expr) :
    expr.IsAtom := by
  unfold parseAtom at parsed
  split at parsed
  · exact of_parseOffset parsed
  · split at parsed
    · exact of_parseOffset parsed
    · cases read : parseHhmm text with
      | error error =>
          rw [read] at parsed
          cases parsed
      | ok time =>
          rw [read] at parsed
          cases parsed
          exact of_parseHhmm read

/-- Without a comma there are no two arguments. -/
theorem atom_of_parse {text : List Char} {expr : TimeExpr} (plain : ¬ [',', ' '] <:+: text)
    (parsed : parse text = .ok expr) : expr.IsAtom := by
  rw [parse] at parsed
  split at parsed
  · exact of_parseAtom parsed
  · next choice rest stripped =>
      have refused : ∀ arguments, parseArguments text rest ≠ .ok arguments := by
        rintro ⟨left, right⟩ arguments
        unfold parseArguments at arguments
        split at arguments
        · cases arguments
        · next inner ends =>
            rw [splitOnce_of_absent] at arguments
            · cases arguments
            · intro inside
              apply plain
              rw [eq_of_stripChoice stripped, eq_append_of_stripSuffix ends]
              exact inside.trans ⟨choice.opening, [')'], by simp⟩
      split at parsed
      · cases parsed
      · next left right arguments => exact absurd arguments (refused _)

/-- What the parser yields is in normal form. -/
theorem normal_of_parse {text : List Char} {expr : TimeExpr} (parsed : parse text = .ok expr) :
    expr.Normal := by
  rw [parse] at parsed
  split at parsed
  · exact (of_parseAtom parsed).normal
  · next choice rest stripped =>
      split at parsed
      · cases parsed
      · next left right arguments =>
          split at parsed
          · cases parsed
          · next first firstParsed =>
              split at parsed
              · cases parsed
              · next second secondParsed =>
                  have atom := atom_of_parse (of_parseArguments arguments).2.2 firstParsed
                  have shorter := (parseArguments_shorter stripped arguments).2
                  have normal := normal_of_parse secondParsed
                  cases parsed
                  cases choice with
                  | max => exact ⟨atom, normal⟩
                  | min => exact ⟨atom, normal⟩
termination_by text.length
decreasing_by exact shorter

/-! ## What the printer writes -/

/-- The decimal digits. -/
def digits : List Char := ['0', '1', '2', '3', '4', '5', '6', '7', '8', '9']

theorem twoDigits_digits : ∀ number < 60, (twoDigits number).toList.all digits.contains = true := by
  decide +kernel

theorem parseByte_twoDigits : ∀ number < 60,
    parseByte (twoDigits number).toList = some number := by
  decide +kernel

theorem twoDigits_nonempty : ∀ number < 60, (twoDigits number).toList ≠ [] := by
  decide +kernel

/-- The letters of atoms. -/
def atomLetters : List Char :=
  digits ++ [':', '+', '-', 's', 'u', 'n', 'r', 'i', 'e', 't']

theorem atomLetters_plain :
    atomLetters.all (fun letter => letter != ',' && !isWhitespace letter) = true := by
  decide

theorem plain_of_mem_atomLetters {letter : Char} (member : letter ∈ atomLetters) :
    letter ≠ ',' ∧ isWhitespace letter = false := by
  simpa using List.all_eq_true.mp atomLetters_plain letter member

theorem sunEvent_letters (event : SunEvent) :
    event.name.all atomLetters.contains = true := by
  cases event with
  | sunrise => decide
  | sunset => decide

theorem parseHhmm_display (hour minute : Nat) (hours : hour ≤ 24) (minutes : minute ≤ 59)
    (midnight : hour = 24 → minute = 0) :
    parseHhmm ((twoDigits hour).toList ++ [':'] ++ (twoDigits minute).toList) =
      .ok (hour, minute) := by
  have mark : ':' ∉ (twoDigits hour).toList := by
    intro member
    have digit := List.all_eq_true.mp (twoDigits_digits hour (by omega)) _ member
    exact absurd digit (by decide)
  unfold parseHhmm
  rw [splitOnce_append mark]
  dsimp only
  rw [parseByte_twoDigits hour (by omega), parseByte_twoDigits minute (by omega)]
  dsimp only
  rw [if_neg (by omega)]

theorem display_fixed (minuteOfDay : Nat) : (fixed minuteOfDay).display.toList =
    (twoDigits (minuteOfDay / 60)).toList ++ [':'] ++ (twoDigits (minuteOfDay % 60)).toList := by
  simp [display]

/-- An offset as it is printed. -/
def displayOffset (offsetMinutes : Int) : List Char :=
  if offsetMinutes = 0 then []
  else
    (if offsetMinutes > 0 then '+' else '-') ::
      ((twoDigits (offsetMinutes.natAbs / 60)).toList ++ [':'] ++
        (twoDigits (offsetMinutes.natAbs % 60)).toList)

theorem display_sunRelative (event : SunEvent) (offsetMinutes : Int) :
    (sunRelative event offsetMinutes).display.toList =
      event.name ++ displayOffset offsetMinutes := by
  unfold display displayOffset
  by_cases none : offsetMinutes = 0
  · cases event with
    | sunrise => simp [none, SunEvent.name]
    | sunset => simp [none, SunEvent.name]
  · by_cases later : offsetMinutes > 0
    · cases event with
      | sunrise => simp [none, later, SunEvent.name]
      | sunset => simp [none, later, SunEvent.name]
    · cases event with
      | sunrise => simp [none, later, SunEvent.name]
      | sunset => simp [none, later, SunEvent.name]

theorem parseOffset_display (text : List Char) (event : SunEvent) {offsetMinutes : Int}
    (bound : offsetMinutes.natAbs ≤ 1440) :
    parseOffset text event (displayOffset offsetMinutes) =
      .ok (sunRelative event offsetMinutes) := by
  unfold parseOffset displayOffset
  by_cases none : offsetMinutes = 0
  · simp [none]
  · have read := parseHhmm_display (offsetMinutes.natAbs / 60) (offsetMinutes.natAbs % 60)
      (by omega) (by omega) (by omega)
    rw [if_neg none, if_neg (by simp)]
    by_cases later : offsetMinutes > 0
    · rw [if_pos later]
      have stripped := stripPrefix_append ['+'] ((twoDigits (offsetMinutes.natAbs / 60)).toList ++
        [':'] ++ (twoDigits (offsetMinutes.natAbs % 60)).toList)
      rw [List.singleton_append] at stripped
      rw [stripped]
      dsimp only
      rw [read]
      simp only [Except.map, Except.ok.injEq, sunRelative.injEq, true_and]
      omega
    · rw [if_neg later, stripPrefix_of_head (by decide)]
      have stripped := stripPrefix_append ['-'] ((twoDigits (offsetMinutes.natAbs / 60)).toList ++
        [':'] ++ (twoDigits (offsetMinutes.natAbs % 60)).toList)
      rw [List.singleton_append] at stripped
      dsimp only
      rw [stripped]
      dsimp only
      rw [read]
      simp only [Except.map, Except.ok.injEq, sunRelative.injEq, true_and]
      omega

/-- Hours begin with a digit. -/
theorem head_twoDigits (number : Nat) (bound : number < 60) (rest : List Char) :
    ∃ first tail, (twoDigits number).toList ++ rest = first :: tail ∧ first ∈ digits := by
  cases written : (twoDigits number).toList with
  | nil => exact absurd written (twoDigits_nonempty number bound)
  | cons first tail =>
      have all := List.all_eq_true.mp (twoDigits_digits number bound) first
        (by rw [written]; exact List.mem_cons_self)
      exact ⟨first, tail ++ rest, rfl, List.contains_iff_mem.mp all⟩

theorem parseAtom_display {expr : TimeExpr} (atom : expr.IsAtom) :
    parseAtom expr.display.toList = .ok expr := by
  cases expr with
  | fixed minuteOfDay =>
      have bound : minuteOfDay ≤ 1440 := atom
      have read := parseHhmm_display (minuteOfDay / 60) (minuteOfDay % 60)
        (by omega) (by omega) (by omega)
      rw [display_fixed]
      obtain ⟨first, tail, begins, digit⟩ := head_twoDigits (minuteOfDay / 60) (by omega)
        ([':'] ++ (twoDigits (minuteOfDay % 60)).toList)
      have other : 's' ≠ first := by
        rintro rfl
        exact absurd digit (by decide)
      unfold parseAtom
      rw [List.append_assoc, begins, SunEvent.name, stripPrefix_of_head other, SunEvent.name,
        stripPrefix_of_head other]
      dsimp only
      rw [← begins, ← List.append_assoc, read]
      simp only [Except.map, Except.ok.injEq, fixed.injEq]
      omega
  | sunRelative event offsetMinutes =>
      rw [display_sunRelative]
      unfold parseAtom
      cases event with
      | sunrise =>
          rw [stripPrefix_append]
          exact parseOffset_display _ _ atom
      | sunset =>
          have other : stripPrefix SunEvent.sunrise.name
              (SunEvent.sunset.name ++ displayOffset offsetMinutes) = none := by
            unfold stripPrefix
            rw [if_neg]
            simp [SunEvent.name]
          rw [other, stripPrefix_append]
          exact parseOffset_display _ _ atom
  | max first second => exact atom.elim
  | min first second => exact atom.elim

theorem mem_displayOffset {offsetMinutes : Int} (bound : offsetMinutes.natAbs ≤ 1440)
    {letter : Char} (member : letter ∈ displayOffset offsetMinutes) : letter ∈ atomLetters := by
  have inDigits {number : Nat} (small : number < 60) (digit : letter ∈ (twoDigits number).toList) :
      letter ∈ atomLetters :=
    List.mem_append_left _
      (List.contains_iff_mem.mp (List.all_eq_true.mp (twoDigits_digits number small) _ digit))
  unfold displayOffset at member
  split at member
  · cases member
  · simp only [List.mem_cons, List.mem_append, List.not_mem_nil, or_false] at member
    rcases member with sign | (hour | mark) | minute
    · subst sign
      split
      · decide
      · decide
    · exact inDigits (by omega) hour
    · subst mark
      decide
    · exact inDigits (by omega) minute

theorem mem_display_atom {expr : TimeExpr} (atom : expr.IsAtom) {letter : Char}
    (member : letter ∈ expr.display.toList) : letter ∈ atomLetters := by
  cases expr with
  | fixed minuteOfDay =>
      have bound : minuteOfDay ≤ 1440 := atom
      rw [display_fixed] at member
      simp only [List.mem_append, List.mem_cons, List.not_mem_nil, or_false] at member
      rcases member with (hour | mark) | minute
      · exact List.mem_append_left _ (List.contains_iff_mem.mp
          (List.all_eq_true.mp (twoDigits_digits _ (by omega)) _ hour))
      · subst mark
        decide
      · exact List.mem_append_left _ (List.contains_iff_mem.mp
          (List.all_eq_true.mp (twoDigits_digits _ (by omega)) _ minute))
  | sunRelative event offsetMinutes =>
      rw [display_sunRelative] at member
      rcases List.mem_append.mp member with name | offset
      · exact List.contains_iff_mem.mp (List.all_eq_true.mp (sunEvent_letters event) letter name)
      · exact mem_displayOffset atom offset
  | max first second => exact atom.elim
  | min first second => exact atom.elim

/-- The letters of a choice. -/
theorem display_choice (choice : Choice) (first second : TimeExpr) :
    (choice.build first second).display.toList = choice.opening ++
      ((first.display.toList ++ [',', ' '] ++ second.display.toList) ++ [')']) := by
  cases choice with
  | max => simp [Choice.build, display, Choice.opening]
  | min => simp [Choice.build, display, Choice.opening]

theorem trim_display {expr : TimeExpr} (normal : expr.Normal) :
    trim isWhitespace expr.display.toList = expr.display.toList := by
  have plain {expr : TimeExpr} (atom : expr.IsAtom) {letter : Char}
      (member : letter ∈ expr.display.toList) : isWhitespace letter = false :=
    (plain_of_mem_atomLetters (mem_display_atom atom member)).2
  have choices (choice : Choice) (first second : TimeExpr) :
      trim isWhitespace (choice.build first second).display.toList =
        (choice.build first second).display.toList := by
    rw [display_choice]
    apply trim_eq_self
    · intro letter begins
      cases choice with
      | max =>
          cases begins
          decide
      | min =>
          cases begins
          decide
    · intro letter ends
      rw [← List.append_assoc, List.getLast?_concat] at ends
      cases ends
      decide
  cases expr with
  | fixed minuteOfDay =>
      exact trim_eq_self (fun _ begins => plain normal (List.mem_of_mem_head? begins))
        (fun _ ends => plain normal (List.mem_of_mem_getLast? ends))
  | sunRelative event offsetMinutes =>
      exact trim_eq_self (fun _ begins => plain normal (List.mem_of_mem_head? begins))
        (fun _ ends => plain normal (List.mem_of_mem_getLast? ends))
  | max first second => exact choices .max first second
  | min first second => exact choices .min first second

theorem stripChoice_opening (choice : Choice) (rest : List Char) :
    stripChoice (choice.opening ++ rest) = some (choice, rest) := by
  unfold stripChoice
  cases choice with
  | max => rw [stripPrefix_append]
  | min =>
      have other : stripPrefix Choice.max.opening (Choice.min.opening ++ rest) = none := by
        unfold stripPrefix
        rw [if_neg]
        simp [Choice.opening]
      rw [other, stripPrefix_append]
      rfl

/-- No atom begins like a choice. -/
theorem stripChoice_atom {expr : TimeExpr} (atom : expr.IsAtom) :
    stripChoice expr.display.toList = none := by
  cases written : expr.display.toList with
  | nil => rfl
  | cons letter rest =>
      have member : letter ∈ expr.display.toList := by
        rw [written]
        exact List.mem_cons_self
      have other : 'm' ≠ letter := by
        rintro rfl
        exact absurd (mem_display_atom atom member) (by decide)
      unfold stripChoice
      rw [Choice.opening, stripPrefix_of_head other, Choice.opening, stripPrefix_of_head other]
      rfl

theorem parse_display_atom {expr : TimeExpr} (atom : expr.IsAtom) :
    parse expr.display.toList = .ok expr :=
  (parse_of_atom (stripChoice_atom atom)).trans (parseAtom_display atom)

theorem parseArguments_display (text : List Char) {first second : TimeExpr} (atom : first.IsAtom)
    (normal : second.Normal) :
    parseArguments text
      ((first.display.toList ++ [',', ' '] ++ second.display.toList) ++ [')']) =
        .ok (first.display.toList, second.display.toList) := by
  have mark : ',' ∉ first.display.toList := by
    intro member
    exact (plain_of_mem_atomLetters (mem_display_atom atom member)).1 rfl
  unfold parseArguments
  rw [stripSuffix_append]
  dsimp only
  rw [splitOnce_append mark]
  dsimp only
  rw [trim_display atom.normal, trim_display normal]

/-- Reading an expression in normal form as it is printed. -/
theorem parse_display {expr : TimeExpr} (normal : expr.Normal) :
    parse expr.display.toList = .ok expr := by
  have choices (choice : Choice) {first second : TimeExpr} (atom : first.IsAtom)
      (rest : second.Normal) (again : parse second.display.toList = .ok second) :
      parse (choice.build first second).display.toList = .ok (choice.build first second) := by
    rw [display_choice]
    exact parse_of_choice (stripChoice_opening choice _) (parseArguments_display _ atom rest)
      (parse_display_atom atom) again
  induction expr with
  | fixed minuteOfDay => exact parse_display_atom normal
  | sunRelative event offsetMinutes => exact parse_display_atom normal
  | max first second _ ih => exact choices .max normal.1 normal.2 (ih normal.2)
  | min first second _ ih => exact choices .min normal.1 normal.2 (ih normal.2)

/-- What is read from a text is read again from the text it is printed as. -/
theorem ofString_display {text : String} {expr : TimeExpr} (read : ofString text = .ok expr) :
    ofString expr.display = .ok expr :=
  parse_display (normal_of_parse read)

theorem ofString_display_nested : ofString "max(  sunset-0:+30, min(24:00, 007:5))" =
      .ok (.max (.sunRelative .sunset (-30)) (.min (.fixed 1440) (.fixed 425))) ∧
    ofString (TimeExpr.max (.sunRelative .sunset (-30)) (.min (.fixed 1440) (.fixed 425))).display =
      .ok (.max (.sunRelative .sunset (-30)) (.min (.fixed 1440) (.fixed 425))) := by
  have left : parse "sunset-0:+30".toList = .ok (.sunRelative .sunset (-30)) :=
    (parse_of_atom (by decide)).trans (by decide +kernel)
  have midnight : parse "24:00".toList = .ok (.fixed 1440) :=
    (parse_of_atom (by decide)).trans (by decide +kernel)
  have morning : parse "007:5".toList = .ok (.fixed 425) :=
    (parse_of_atom (by decide)).trans (by decide +kernel)
  have inner : stripChoice "min(24:00, 007:5)".toList = some (.min, "24:00, 007:5)".toList) := by
    decide +kernel
  have innerArguments : parseArguments "min(24:00, 007:5)".toList "24:00, 007:5)".toList =
      .ok ("24:00".toList, "007:5".toList) := by
    decide +kernel
  have right : parse "min(24:00, 007:5)".toList = .ok (.min (.fixed 1440) (.fixed 425)) :=
    parse_of_choice inner innerArguments midnight morning
  have outer : stripChoice "max(  sunset-0:+30, min(24:00, 007:5))".toList =
      some (.max, "  sunset-0:+30, min(24:00, 007:5))".toList) := by
    decide +kernel
  have outerArguments : parseArguments "max(  sunset-0:+30, min(24:00, 007:5))".toList
      "  sunset-0:+30, min(24:00, 007:5))".toList =
        .ok ("sunset-0:+30".toList, "min(24:00, 007:5)".toList) := by
    decide +kernel
  have read : ofString "max(  sunset-0:+30, min(24:00, 007:5))" =
      .ok (.max (.sunRelative .sunset (-30)) (.min (.fixed 1440) (.fixed 425))) :=
    parse_of_choice outer outerArguments left right
  exact ⟨read, ofString_display read⟩

end TimeExpr

end MqttController
