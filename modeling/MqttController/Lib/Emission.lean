import Mathlib.Data.List.Induction
import Mathlib.Data.Rat.Floor
import Mathlib.Data.List.Perm.Basic

/-!
# State changes that emit outputs

Steps over a state that also emit a list of outputs, their sequencing and iteration, and the rule
by which an invariant of the state and of the outputs emitted so far passes from the parts to the
whole.
-/

namespace Emission

variable {σ τ α ε ι : Type*}

/-- A step changes the state and emits a list of outputs. -/
abbrev Step (σ ε : Type*) := σ → σ × List ε

/-- A step that emits nothing. -/
def silent (change : σ → σ) : Step σ ε := fun state => (change state, [])

/-- Run one step and then another, emitting in order. -/
def andThen (first second : Step σ ε) : Step σ ε := fun state =>
  match first state with
  | (middle, emitted) =>
      match second middle with
      | (after, more) => (after, emitted ++ more)

/-- Run one step for each item of a list, in order. -/
def forEach (step : α → Step σ ε) : List α → Step σ ε
  | [] => silent id
  | item :: rest => andThen (step item) (forEach step rest)

@[simp]
theorem silent_fst (change : σ → σ) (state : σ) :
    (silent change state : σ × List ε).1 = change state := rfl

@[simp]
theorem silent_snd (change : σ → σ) (state : σ) :
    (silent change state : σ × List ε).2 = [] := rfl

@[simp]
theorem andThen_fst (first second : Step σ ε) (state : σ) :
    (andThen first second state).1 = (second (first state).1).1 := rfl

@[simp]
theorem andThen_snd (first second : Step σ ε) (state : σ) :
    (andThen first second state).2 = (first state).2 ++ (second (first state).1).2 := rfl

@[simp]
theorem forEach_nil (step : α → Step σ ε) (state : σ) : forEach step [] state = (state, []) := rfl

@[simp]
theorem forEach_cons (step : α → Step σ ε) (item : α) (rest : List α) :
    forEach step (item :: rest) = andThen (step item) (forEach step rest) := rfl

theorem andThen_apply (first second : Step σ ε) (state : σ) :
    andThen first second state =
      ((second (first state).1).1, (first state).2 ++ (second (first state).1).2) := rfl

theorem forEach_append (step : α → Step σ ε) (first second : List α) (state : σ) :
    forEach step (first ++ second) state =
      andThen (forEach step first) (forEach step second) state := by
  induction first generalizing state with
  | nil => simp [andThen]
  | cons item rest ih =>
      rw [List.cons_append, forEach_cons, forEach_cons]
      simp only [andThen, ih, List.append_assoc]

/-- Iterating a step changes the state as folding its changes does. -/
theorem forEach_fst (step : α → Step σ ε) (items : List α) (state : σ) :
    (forEach step items state).1 = items.foldl (fun state item => (step item state).1) state := by
  induction items generalizing state with
  | nil => rfl
  | cons item rest ih => rw [forEach_cons, andThen_fst, ih, List.foldl_cons]

/-! ## Frames -/

/-- The step leaves a part of the state alone and emits only outputs of a kind. -/
def Leaves (part : σ → τ) (kind : ε → Prop) (step : Step σ ε) : Prop :=
  ∀ state, part (step state).1 = part state ∧ ∀ output ∈ (step state).2, kind output

section Leaves

variable {part : σ → τ} {kind : ε → Prop}

theorem Leaves.silent {change : σ → σ} (leaves : ∀ state, part (change state) = part state) :
    Leaves part kind (silent change : Step σ ε) := fun state => ⟨leaves state, by simp⟩

theorem Leaves.emit {outputs : σ → List ε}
    (emits : ∀ state, ∀ output ∈ outputs state, kind output) :
    Leaves part kind fun state => (state, outputs state) := fun state => ⟨rfl, emits state⟩

theorem Leaves.skip : Leaves part kind fun state => (state, ([] : List ε)) :=
  Leaves.emit (by simp)

theorem Leaves.andThen {first second : Step σ ε} (leavesFirst : Leaves part kind first)
    (leavesSecond : Leaves part kind second) : Leaves part kind (andThen first second) := by
  intro state
  obtain ⟨same, emitted⟩ := leavesFirst state
  obtain ⟨same', emitted'⟩ := leavesSecond (first state).1
  refine ⟨same'.trans same, fun output member => ?_⟩
  rcases List.mem_append.mp member with member | member
  · exact emitted output member
  · exact emitted' output member

theorem Leaves.forEach {step : α → Step σ ε} (leaves : ∀ item, Leaves part kind (step item))
    (items : List α) : Leaves part kind (forEach step items) := by
  induction items with
  | nil => exact Leaves.skip
  | cons item rest ih =>
      rw [forEach_cons]
      exact (leaves item).andThen ih

end Leaves

/-! ## Relations between the states before and after -/

section Related

variable {rel : σ → σ → Prop} (refl : ∀ state, rel state state)
  (trans : ∀ first second third, rel first second → rel second third → rel first third)

include refl trans

/-- What each step of an iteration relates, the iteration relates. -/
theorem forEach_related {step : α → Step σ ε} {items : List α}
    (each : ∀ item ∈ items, ∀ state, rel state (step item state).1) (state : σ) :
    rel state (forEach step items state).1 := by
  induction items generalizing state with
  | nil => exact refl state
  | cons item rest ih =>
      exact trans _ _ _ (each item List.mem_cons_self state)
        (ih (fun other member => each other (List.mem_cons_of_mem _ member)) _)

/-- What each change of a fold relates, the fold relates. -/
theorem foldl_related {change : σ → ι → σ} {items : List ι}
    (each : ∀ item ∈ items, ∀ state, rel state (change state item)) (state : σ) :
    rel state (items.foldl change state) := by
  induction items generalizing state with
  | nil => exact refl state
  | cons item rest ih =>
      exact trans _ _ _ (each item List.mem_cons_self state)
        (ih (fun other member => each other (List.mem_cons_of_mem _ member)) _)

end Related

/-- What each step of an iteration emits is of a kind while a property of the state lasts. -/
theorem forEach_emits {holds : σ → Prop} {kind : ε → Prop} {step : α → Step σ ε} {items : List α}
    (each : ∀ item ∈ items, ∀ state, holds state →
      holds (step item state).1 ∧ ∀ output ∈ (step item state).2, kind output) (state : σ)
    (start : holds state) :
    holds (forEach step items state).1 ∧ ∀ output ∈ (forEach step items state).2, kind output := by
  induction items generalizing state with
  | nil => exact ⟨start, by simp⟩
  | cons item rest ih =>
      obtain ⟨kept, emitted⟩ := each item List.mem_cons_self state start
      obtain ⟨lasts, later⟩ := ih (fun other member => each other (List.mem_cons_of_mem _ member))
        (step item state).1 kept
      refine ⟨lasts, fun output member => ?_⟩
      rcases List.mem_append.mp member with member | member
      · exact emitted output member
      · exact later output member

/-! ## Invariants of states and histories -/

/-- The step takes every history of outputs and state with the invariant to the longer history and
the new state. -/
def Keeps (inv : List ε → σ → Prop) (step : Step σ ε) : Prop :=
  ∀ past state, inv past state → inv (past ++ (step state).2) (step state).1

section Keeps

variable {inv : List ε → σ → Prop}

theorem Keeps.skip : Keeps inv fun state => (state, []) := by
  intro past state holds
  simpa using holds

theorem Keeps.andThen {first second : Step σ ε} (keepFirst : Keeps inv first)
    (keepSecond : Keeps inv second) : Keeps inv (andThen first second) := by
  intro past state holds
  rw [andThen_snd, andThen_fst, ← List.append_assoc]
  exact keepSecond _ _ (keepFirst past state holds)

theorem Keeps.forEach {step : α → Step σ ε} (items : List α)
    (keep : ∀ item ∈ items, Keeps inv (step item)) : Keeps inv (forEach step items) := by
  induction items with
  | nil => exact Keeps.skip
  | cons item rest ih =>
      rw [forEach_cons]
      exact (keep item List.mem_cons_self).andThen
        (ih fun other member => keep other (List.mem_cons_of_mem _ member))

end Keeps

/-! ## Properties of every output of a history -/

/-- Every output of a history has the property, given the outputs before it. -/
def Always (good : List ε → ε → Prop) (history : List ε) : Prop :=
  ∀ past output later, history = past ++ output :: later → good past output

section Always

variable {good : List ε → ε → Prop}

theorem always_nil : Always good ([] : List ε) := by
  intro past output later split
  simp at split

theorem always_concat_iff (history : List ε) (last : ε) :
    Always good (history ++ [last]) ↔ Always good history ∧ good history last := by
  constructor
  · intro all
    refine ⟨?_, all history last [] rfl⟩
    intro past output later split
    exact all past output (later ++ [last]) (by rw [split]; simp)
  · rintro ⟨before, lastGood⟩ past output later split
    rcases List.eq_nil_or_concat later with rfl | ⟨front, final, rfl⟩
    · obtain ⟨rfl, same⟩ := List.append_inj' split rfl
      cases same
      exact lastGood
    · rw [List.concat_eq_append, ← List.cons_append, ← List.append_assoc] at split
      obtain ⟨rfl, _⟩ := List.append_inj' split rfl
      exact before past output front rfl

end Always

/-- There was a start, and no stop since. -/
def Since (start stop : ε → Prop) (history : List ε) : Prop :=
  ∃ past first later, history = past ++ first :: later ∧ start first ∧
    ∀ output ∈ later, ¬ stop output

theorem since_last {start stop : ε → Prop} (history : List ε) {last : ε} (starts : start last) :
    Since start stop (history ++ [last]) :=
  ⟨history, last, [], rfl, starts, by simp⟩

theorem Since.concat {start stop : ε → Prop} {history : List ε} {last : ε}
    (since : Since start stop history) (goesOn : ¬ stop last) :
    Since start stop (history ++ [last]) := by
  obtain ⟨past, first, later, rfl, starts, unstopped⟩ := since
  refine ⟨past, first, later ++ [last], by simp, starts, fun output member => ?_⟩
  rcases List.mem_append.mp member with early | final
  · exact unstopped output early
  · rw [List.mem_singleton.mp final]
    exact goesOn

theorem since_concat {start stop : ε → Prop} {history : List ε} {last : ε}
    (since : Since start stop (history ++ [last])) :
    start last ∨ Since start stop history ∧ ¬ stop last := by
  obtain ⟨past, first, later, split, starts, unstopped⟩ := since
  rcases List.eq_nil_or_concat later with rfl | ⟨front, final, rfl⟩
  · obtain ⟨_, same⟩ := List.append_inj' split rfl
    cases same
    exact .inl starts
  · rw [List.concat_eq_append, ← List.cons_append, ← List.append_assoc] at split
    obtain ⟨same, rest⟩ := List.append_inj' split rfl
    cases rest
    rw [List.concat_eq_append] at unstopped
    exact .inr ⟨⟨past, first, front, same, starts, fun output member =>
      unstopped output (List.mem_append.mpr (.inl member))⟩, unstopped _ (by simp)⟩

/-- Of the outputs with a property there is a last one. -/
theorem exists_last {holds : ε → Prop} {history : List ε}
    (some : ∃ output ∈ history, holds output) :
    ∃ past last later, history = past ++ last :: later ∧ holds last ∧
      ∀ other ∈ later, ¬ holds other := by
  induction history with
  | nil =>
      obtain ⟨output, member, _⟩ := some
      cases member
  | cons first rest ih =>
      by_cases more : ∃ other ∈ rest, holds other
      · obtain ⟨past, last, later, split, held, none⟩ := ih more
        exact ⟨first :: past, last, later, by rw [split]; rfl, held, none⟩
      · obtain ⟨output, member, held⟩ := some
        have same : output = first := by
          rcases List.mem_cons.mp member with same | inside
          · exact same
          · exact absurd ⟨output, inside, held⟩ more
        subst same
        exact ⟨[], output, rest, rfl, held, fun other inside held => more ⟨other, inside, held⟩⟩

/-- The history around the output at a position. -/
theorem split_at {history : List ε} {position : Nat} {output : ε}
    (found : history[position]? = some output) :
    history = history.take position ++ output :: history.drop (position + 1) := by
  obtain ⟨bound, rfl⟩ := List.getElem?_eq_some_iff.mp found
  rw [List.getElem_cons_drop, List.take_append_drop]

/-- Every output is good if it is at each position. -/
theorem always_of_positions {good : List ε → ε → Prop} {history : List ε}
    (each : ∀ position ∈ List.range history.length, ∀ output ∈ history[position]?,
      good (history.take position) output) : Always good history := by
  rintro past output later rfl
  have found : (past ++ output :: later)[past.length]? = some output := by simp
  have holds := each past.length (by simp) output found
  rwa [List.take_left] at holds

/-! ## The last of the picked outputs -/

/-- The last value that is picked from a history. -/
def lastPicked {β : Type*} (pick : ε → Option β) (history : List ε) : Option β :=
  (history.filterMap pick).getLast?

@[simp]
theorem lastPicked_nil {β : Type*} (pick : ε → Option β) : lastPicked pick [] = none := rfl

theorem lastPicked_append {β : Type*} (pick : ε → Option β) (first second : List ε) :
    lastPicked pick (first ++ second) = (lastPicked pick second).or (lastPicked pick first) := by
  unfold lastPicked
  rw [List.filterMap_append, List.getLast?_append]

theorem lastPicked_isSome {β : Type*} {pick : ε → Option β} {history : List ε} :
    (lastPicked pick history).isSome ↔ ∃ output ∈ history, (pick output).isSome := by
  unfold lastPicked
  rw [List.getLast?_isSome]
  constructor
  · intro picks
    obtain ⟨value, member⟩ := List.exists_mem_of_ne_nil _ picks
    obtain ⟨output, inside, picked⟩ := List.mem_filterMap.mp member
    exact ⟨output, inside, by rw [picked]; rfl⟩
  · rintro ⟨output, inside, some⟩
    obtain ⟨value, picked⟩ := Option.isSome_iff_exists.mp some
    exact List.ne_nil_of_mem (List.mem_filterMap.mpr ⟨output, inside, picked⟩)

theorem lastPicked_concat {β : Type*} (pick : ε → Option β) (history : List ε) (output : ε) :
    lastPicked pick (history ++ [output]) = (pick output).or (lastPicked pick history) := by
  rw [lastPicked_append]
  congr 1
  unfold lastPicked
  cases picked : pick output with
  | none => simp [picked]
  | some value => simp [picked]

/-- The last picked value was picked from an output after which none is picked. -/
theorem lastPicked_eq_some_iff {β : Type*} {pick : ε → Option β} {history : List ε} {value : β} :
    lastPicked pick history = some value ↔ ∃ past output later,
      history = past ++ output :: later ∧ pick output = some value ∧
        ∀ other ∈ later, pick other = none := by
  induction history using List.reverseRecOn with
  | nil => simp
  | append_singleton history last ih =>
      rw [lastPicked_concat]
      cases picked : pick last with
      | some other =>
          rw [Option.some_or, Option.some.injEq]
          constructor
          · rintro rfl
            exact ⟨history, last, [], rfl, picked, by simp⟩
          · rintro ⟨past, output, later, split, found, none⟩
            rcases List.eq_nil_or_concat later with rfl | ⟨front, final, rfl⟩
            · obtain ⟨_, same⟩ := List.append_inj' split rfl
              cases same
              rw [picked] at found
              exact Option.some.inj found
            · rw [List.concat_eq_append, ← List.cons_append, ← List.append_assoc] at split
              obtain ⟨_, same⟩ := List.append_inj' split rfl
              cases same
              rw [none last (by simp)] at picked
              cases picked
      | none =>
          rw [Option.none_or, ih]
          constructor
          · rintro ⟨past, output, later, rfl, found, none⟩
            refine ⟨past, output, later ++ [last], by simp, found, fun other member => ?_⟩
            rcases List.mem_append.mp member with earlier | final
            · exact none other earlier
            · rw [List.mem_singleton.mp final]
              exact picked
          · rintro ⟨past, output, later, split, found, none⟩
            rcases List.eq_nil_or_concat later with rfl | ⟨front, final, rfl⟩
            · obtain ⟨_, same⟩ := List.append_inj' split rfl
              cases same
              rw [picked] at found
              cases found
            · rw [List.concat_eq_append, ← List.cons_append, ← List.append_assoc] at split
              obtain ⟨rfl, _⟩ := List.append_inj' split rfl
              exact ⟨past, output, front, rfl, found, fun other member =>
                none other (by simp [member])⟩

/-! ## Folds of keyed updates -/

/-- A fold of updates, each changing the view at one key, is at each key the fold of the updates
of that key. -/
theorem foldl_at_key {κ β : Type*} [DecidableEq κ] (view : σ → κ → β) (change : σ → ι → σ)
    (key : ι → κ) (edit : ι → β → β)
    (local' : ∀ state item at', view (change state item) at' =
      if key item = at' then edit item (view state at') else view state at')
    (items : List ι) (state : σ) (at' : κ) :
    view (items.foldl change state) at' =
      (items.filter fun item => decide (key item = at')).foldl
        (fun value item => edit item value) (view state at') := by
  induction items generalizing state with
  | nil => rfl
  | cons item rest ih =>
      rw [List.foldl_cons, ih, local', List.filter_cons]
      by_cases same : key item = at'
      · simp [same]
      · simp [same]

/-- A part of the state that no update changes is unchanged by their fold. -/
theorem foldl_frame (part : σ → τ) (change : σ → ι → σ)
    (frame : ∀ state item, part (change state item) = part state) (items : List ι) (state : σ) :
    part (items.foldl change state) = part state := by
  induction items generalizing state with
  | nil => rfl
  | cons item rest ih => rw [List.foldl_cons, ih, frame]

/-- What every step of a fold establishes for its item and keeps for the others holds of all items
afterwards. -/
theorem foldl_establishes (inv : σ → Prop) (holds : ι → σ → Prop) {change : σ → ι → σ}
    {items : List ι} {state : σ}
    (keep : ∀ state, ∀ item ∈ items, inv state → inv (change state item))
    (establish : ∀ state, ∀ item ∈ items, inv state → holds item (change state item))
    (preserve : ∀ state, ∀ item ∈ items, ∀ other ∈ items, inv state → holds other state →
      holds other (change state item)) (start : inv state) :
    ∀ item ∈ items, holds item (items.foldl change state) := by
  induction items generalizing state with
  | nil => simp
  | cons first rest ih =>
      have started : inv (change state first) := keep state first List.mem_cons_self start
      intro item member
      rw [List.foldl_cons]
      rcases List.mem_cons.mp member with rfl | later
      · -- The first item's part is kept by the steps that follow.
        refine (List.foldlRecOn rest change
          (motive := fun state => inv state ∧ holds item state)
          ⟨started, establish state item List.mem_cons_self start⟩ ?_).2
        rintro state ⟨reached, held⟩ other otherMember
        exact ⟨keep state other (List.mem_cons_of_mem _ otherMember) reached,
          preserve state other (List.mem_cons_of_mem _ otherMember) item List.mem_cons_self reached
            held⟩
      · exact ih (fun state item member => keep state item (List.mem_cons_of_mem _ member))
          (fun state item member => establish state item (List.mem_cons_of_mem _ member))
          (fun state item member other otherMember => preserve state item
            (List.mem_cons_of_mem _ member) other (List.mem_cons_of_mem _ otherMember))
          started item later

end Emission
