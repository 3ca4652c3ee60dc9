import MqttController.Lib.Checked
import Mathlib.Data.List.Induction
import Mathlib.Data.List.Nodup
import Std.Data.TreeMap.Lemmas

/-!
# Validations

Checks that refuse what does not hold, claims of names that only one item may hold, and what a
successful pass of such checks has established.
-/

namespace Checked

open Std

variable {ε α β σ κ : Type*}

/-- Refuse unless a condition holds. -/
def require (holds : Prop) [Decidable holds] (error : ε) : Except ε Unit :=
  if holds then .ok () else .error error

/-- The value, or a refusal where there is none. -/
def okOr (value : Option α) (error : ε) : Except ε α :=
  match value with
  | some value => .ok value
  | none => .error error

/-- Take a key for an owner, unless it is taken. -/
def claim {order : κ → κ → Ordering} (owners : TreeMap κ β order) (key : κ) (owner : β)
    (clash : β → ε) : Except ε (TreeMap κ β order) :=
  match owners[key]? with
  | some other => .error (clash other)
  | none => .ok (owners.insert key owner)

@[simp]
theorem require_ok_iff {holds : Prop} [Decidable holds] {error : ε} {value : Unit} :
    require holds error = .ok value ↔ holds := by
  unfold require
  split <;> simp_all

@[simp]
theorem okOr_ok_iff {value : Option α} {error : ε} {result : α} :
    okOr value error = .ok result ↔ value = some result := by
  cases value <;> simp [okOr]

theorem claim_ok_iff {order : κ → κ → Ordering} {owners after : TreeMap κ β order} {key : κ}
    {owner : β} {clash : β → ε} :
    claim owners key owner clash = .ok after ↔
      owners[key]? = none ∧ owners.insert key owner = after := by
  unfold claim
  cases owners[key]? with
  | none => simp
  | some other => simp

section Claims

variable {order : κ → κ → Ordering} [TransCmp order] [LawfulEqCmp order]
  {owners after : TreeMap κ β order} {key : κ} {owner : β} {clash : β → ε}

/-- After a claim the key has its owner, and the other keys have theirs. -/
theorem claimed_iff (claimed : claim owners key owner clash = .ok after) (other : κ) (value : β) :
    after[other]? = some value ↔ owners[other]? = some value ∨ other = key ∧ value = owner := by
  obtain ⟨free, rfl⟩ := claim_ok_iff.mp claimed
  rw [TreeMap.getElem?_insert]
  constructor
  · intro found
    split at found
    · rename_i same
      exact .inr ⟨(LawfulEqCmp.compare_eq_iff_eq.mp same).symm, (Option.some.inj found).symm⟩
    · exact .inl found
  · rintro (found | ⟨rfl, rfl⟩)
    · split
      · rename_i same
        rw [← LawfulEqCmp.compare_eq_iff_eq.mp same, free] at found
        cases found
      · exact found
    · rw [if_pos (LawfulEqCmp.compare_eq_iff_eq.mpr rfl)]

theorem unclaimed_iff (claimed : claim owners key owner clash = .ok after) (other : κ) :
    after[other]? = none ↔ owners[other]? = none ∧ other ≠ key := by
  constructor
  · intro free
    constructor
    · by_contra taken
      obtain ⟨value, found⟩ := Option.ne_none_iff_exists'.mp taken
      rw [(claimed_iff claimed other value).mpr (.inl found)] at free
      cases free
    · rintro rfl
      rw [(claimed_iff claimed other owner).mpr (.inr ⟨rfl, rfl⟩)] at free
      cases free
  · rintro ⟨free, different⟩
    by_contra taken
    obtain ⟨value, found⟩ := Option.ne_none_iff_exists'.mp taken
    rcases (claimed_iff claimed other value).mp found with before | ⟨same, _⟩
    · rw [free] at before
      cases before
    · exact different same

end Claims

theorem bind_ok_iff.{u, v} {ε : Type u} {α β : Type v} {result : Except ε α}
    {next : α → Except ε β} {value : β} :
    result >>= next = .ok value ↔ ∃ between, result = .ok between ∧ next between = .ok value := by
  constructor
  · exact ok_of_bind
  · rintro ⟨between, rfl, passed⟩
    exact passed

theorem then_ok_iff {first : Except ε Unit} {β : Type} {next : Except ε β} {value : β} :
    (first >>= fun _ => next) = .ok value ↔ first = .ok () ∧ next = .ok value := by
  rw [bind_ok_iff]
  constructor
  · rintro ⟨_, passed, later⟩
    exact ⟨passed, later⟩
  · rintro ⟨passed, later⟩
    exact ⟨(), passed, later⟩

theorem pure_ok_iff {value result : α} :
    (pure value : Except ε α) = .ok result ↔ value = result := by
  simp [pure, Except.pure]

theorem mapError_ok_iff {δ : Type*} {result : Except ε α} {failure : ε → δ} {value : α} :
    result.mapError failure = .ok value ↔ result = .ok value := by
  cases result with
  | error error => simp [Except.mapError]
  | ok passed => simp [Except.mapError]

theorem map_ok_iff {result : Except ε α} {build : α → β} {built : β} :
    result.map build = .ok built ↔ ∃ value, result = .ok value ∧ built = build value := by
  constructor
  · exact ok_of_map
  · rintro ⟨value, rfl, rfl⟩
    rfl

/-- A pass without a state succeeds when every item does, and yields the results in order. -/
theorem mapM_ok_iff {check : α → Except ε β} {items : List α} {results : List β} :
    items.mapM check = .ok results ↔
      List.Forall₂ (fun item result => check item = .ok result) items results := by
  induction items generalizing results with
  | nil =>
      rw [List.mapM_nil, pure_ok_iff, List.forall₂_nil_left_iff, eq_comm]
  | cons item rest ih =>
      rw [List.forall₂_cons_left_iff]
      constructor
      · intro passed
        obtain ⟨result, more, here, there, rfl⟩ := mapM_cons_ok passed
        exact ⟨result, more, here, ih.mp there, rfl⟩
      · rintro ⟨result, more, here, there, rfl⟩
        rw [List.mapM_cons, here, ih.mpr there]
        rfl

theorem exists_of_forall₂ {related : α → β → Prop} {items : List α} {results : List β}
    (each : List.Forall₂ related items results) {result : β} (member : result ∈ results) :
    ∃ item ∈ items, related item result := by
  induction each with
  | nil => cases member
  | cons here _ ih =>
      rcases List.mem_cons.mp member with rfl | member
      · exact ⟨_, List.mem_cons_self, here⟩
      · obtain ⟨item, listed, fits⟩ := ih member
        exact ⟨item, List.mem_cons_of_mem _ listed, fits⟩

theorem map_eq_of_forall₂ {related : α → β → Prop} {left : α → κ} {right : β → κ}
    (same : ∀ item result, related item result → right result = left item) {items : List α}
    {results : List β} (each : List.Forall₂ related items results) :
    results.map right = items.map left := by
  induction each with
  | nil => rfl
  | cons here _ ih => rw [List.map_cons, List.map_cons, same _ _ here, ih]

/-! ## Passes with a state -/

/-- What holds at the start and is kept by every step that succeeds holds after the pass. -/
theorem foldlM_invariant {step : σ → α → Except ε σ} (inv : List α → σ → Prop)
    (each : ∀ past item state after, inv past state → step state item = .ok after →
      inv (past ++ [item]) after) {items : List α} :
    ∀ {past : List α} {state after : σ}, inv past state → items.foldlM step state = .ok after →
      inv (past ++ items) after := by
  induction items with
  | nil =>
      intro past state after holds passed
      rw [List.foldlM_nil] at passed
      cases passed
      rw [List.append_nil]
      exact holds
  | cons item rest ih =>
      intro past state after holds passed
      rw [List.foldlM_cons] at passed
      cases here : step state item with
      | error error =>
          rw [here] at passed
          cases passed
      | ok between =>
          rw [here] at passed
          have later := ih (each past item state between holds here) passed
          rw [List.append_assoc, List.singleton_append] at later
          exact later

/-- Every item of a pass that succeeds has succeeded from some state. -/
theorem exists_of_foldlM_ok {step : σ → α → Except ε σ} {items : List α} {state after : σ}
    (passed : items.foldlM step state = .ok after) {item : α} (member : item ∈ items) :
    ∃ before next, step before item = .ok next := by
  induction items generalizing state with
  | nil => cases member
  | cons first rest ih =>
      rw [List.foldlM_cons] at passed
      cases here : step state first with
      | error error =>
          rw [here] at passed
          cases passed
      | ok between =>
          rw [here] at passed
          rcases List.mem_cons.mp member with rfl | member
          · exact ⟨state, between, here⟩
          · exact ih passed member

/-- A pass succeeds exactly when every item fits what comes before it. -/
theorem exists_foldlM_ok_iff {step : σ → α → Except ε σ} (inv : List α → σ → Prop)
    (fits : List α → α → Prop)
    (kept : ∀ past item state after, inv past state → step state item = .ok after →
      inv (past ++ [item]) after)
    (passes : ∀ past item state, inv past state →
      ((∃ after, step state item = .ok after) ↔ fits past item)) {items : List α} :
    ∀ {past : List α} {state : σ}, inv past state →
      ((∃ after, items.foldlM step state = .ok after) ↔
        ∀ front item back, items = front ++ item :: back → fits (past ++ front) item) := by
  induction items with
  | nil =>
      intro past state _
      constructor
      · intro _ front item back split
        simp at split
      · exact fun _ => ⟨state, rfl⟩
  | cons first rest ih =>
      intro past state holds
      rw [List.foldlM_cons]
      constructor
      · rintro ⟨after, passed⟩ front item back split
        cases here : step state first with
        | error error =>
            rw [here] at passed
            cases passed
        | ok between =>
            rw [here] at passed
            cases front with
            | nil =>
                cases split
                rw [List.append_nil]
                exact (passes past _ state holds).mp ⟨between, here⟩
            | cons other front =>
                cases split
                have later := (ih (kept past _ state between holds here)).mp ⟨after, passed⟩
                  front item back rfl
                rw [List.append_assoc, List.singleton_append] at later
                exact later
      · intro each
        have here := each [] first rest rfl
        rw [List.append_nil] at here
        obtain ⟨between, passed⟩ := (passes past first state holds).mpr here
        have later := (ih (kept past first state between holds passed)).mpr
          fun front item back split => by
            have fit := each (first :: front) item back (by rw [split, List.cons_append])
            rw [List.append_assoc, List.singleton_append]
            exact fit
        obtain ⟨after, rest⟩ := later
        refine ⟨after, ?_⟩
        rw [passed]
        exact rest

/-- What every item has, wherever it stands. -/
theorem forall_split_iff {holds : α → Prop} {items : List α} :
    (∀ front item back, items = front ++ item :: back → holds item) ↔
      ∀ item ∈ items, holds item := by
  constructor
  · intro each item member
    obtain ⟨front, back, split⟩ := List.append_of_mem member
    exact each front item back split
  · rintro each front item back rfl
    exact each item (List.mem_append_right _ List.mem_cons_self)

/-- No key comes twice exactly when the keys of an item differ from each other and from those of
the items before it. -/
theorem nodup_flatMap_iff_split {keys : α → List κ} {items : List α} :
    (items.flatMap keys).Nodup ↔ ∀ front item back, items = front ++ item :: back →
      (keys item).Nodup ∧ ∀ key ∈ keys item, key ∉ front.flatMap keys := by
  induction items using List.reverseRecOn with
  | nil => simp
  | append_singleton items last ih =>
      rw [List.flatMap_append, List.nodup_append', ih, List.flatMap_singleton]
      constructor
      · rintro ⟨each, distinct, disjoint⟩ front item back split
        rcases List.eq_nil_or_concat back with rfl | ⟨back, other, rfl⟩
        · obtain ⟨rfl, same⟩ := List.append_inj' split rfl
          cases same
          exact ⟨distinct, fun key mine before => disjoint before mine⟩
        · rw [List.concat_eq_append, ← List.cons_append, ← List.append_assoc] at split
          exact each front item back (List.append_inj' split rfl).1
      · intro each
        have mine := each items last [] rfl
        refine ⟨fun front item back split => ?_, mine.1, fun key before here =>
          mine.2 key here before⟩
        apply each front item (back ++ [last])
        rw [split, List.append_assoc, List.cons_append]

/-- No key comes twice exactly when no item has the key of one before it. -/
theorem nodup_map_iff_split {key : α → κ} {items : List α} : (items.map key).Nodup ↔
    ∀ front item back, items = front ++ item :: back → key item ∉ front.map key := by
  have each := @nodup_flatMap_iff_split α κ (fun item => [key item]) items
  simp only [← List.map_eq_flatMap, List.nodup_singleton, List.mem_singleton, forall_eq,
    true_and] at each
  exact each

/-- A pass that takes the key of every item finds no key twice. -/
theorem nodup_map_of_taken {step : σ → α → Except ε σ} {key : α → κ} (free : σ → κ → Prop)
    (each : ∀ state item after, step state item = .ok after →
      free state (key item) ∧ ∀ other, free after other → free state other ∧ other ≠ key item)
    {items : List α} {state after : σ} (passed : items.foldlM step state = .ok after) :
    (items.map key).Nodup ∧ ∀ item ∈ items, free state (key item) := by
  induction items generalizing state with
  | nil => exact ⟨List.nodup_nil, fun item member => by cases member⟩
  | cons first rest ih =>
      rw [List.foldlM_cons] at passed
      cases here : step state first with
      | error error =>
          rw [here] at passed
          cases passed
      | ok between =>
          rw [here] at passed
          obtain ⟨distinct, later⟩ := ih passed
          obtain ⟨fresh, taken⟩ := each state first between here
          rw [List.map_cons, List.nodup_cons]
          refine ⟨⟨fun listed => ?_, distinct⟩, fun item member => ?_⟩
          · obtain ⟨item, member, same⟩ := List.mem_map.mp listed
            exact (taken (key item) (later item member)).2 same
          · rcases List.mem_cons.mp member with rfl | member
            · exact fresh
            · exact (taken (key item) (later item member)).1

/-- What is free after a pass that takes keys was free before, and is none of them. -/
theorem free_before {step : σ → α → Except ε σ} {key : α → κ} (free : σ → κ → Prop)
    (each : ∀ state item after, step state item = .ok after →
      ∀ other, free after other → free state other ∧ other ≠ key item)
    {items : List α} {state after : σ} (passed : items.foldlM step state = .ok after) {other : κ}
    (still : free after other) : free state other ∧ other ∉ items.map key := by
  induction items generalizing state with
  | nil =>
      cases passed
      exact ⟨still, List.not_mem_nil⟩
  | cons first rest ih =>
      rw [List.foldlM_cons] at passed
      cases here : step state first with
      | error error =>
          rw [here] at passed
          cases passed
      | ok between =>
          rw [here] at passed
          obtain ⟨free, fresh⟩ := ih passed
          obtain ⟨before, different⟩ := each state first between here other free
          rw [List.map_cons, List.mem_cons, not_or]
          exact ⟨before, different, fresh⟩

/-! ## Kinds of failure -/

/-- A result fails only with errors of a kind. -/
def Only (kind : ε → Prop) (result : Except ε α) : Prop :=
  ∀ error, result = .error error → kind error

namespace Only

variable {kind : ε → Prop}

theorem ok (value : α) : Only kind (.ok value : Except ε α) := by
  intro error failed
  cases failed

theorem error {error : ε} (fits : kind error) : Only kind (.error error : Except ε α) := by
  intro other failed
  cases failed
  exact fits

theorem bind.{u, v} {ε : Type u} {α β : Type v} {kind : ε → Prop} {result : Except ε α}
    {next : α → Except ε β} (first : Only kind result)
    (later : ∀ value, result = .ok value → Only kind (next value)) :
    Only kind (result >>= next) := by
  intro error failed
  cases here : result with
  | error other =>
      rw [here] at failed
      cases failed
      exact first _ here
  | ok value =>
      rw [here] at failed
      exact later value here error failed

theorem require {holds : Prop} [Decidable holds] {error : ε} (fits : ¬ holds → kind error) :
    Only kind (Checked.require holds error) := by
  unfold Checked.require
  split
  · exact ok ()
  · rename_i refused
    exact Only.error (fits refused)

theorem okOr {value : Option α} {error : ε} (fits : value = none → kind error) :
    Only kind (Checked.okOr value error) := by
  cases value with
  | none => exact Only.error (fits rfl)
  | some value => exact ok value

theorem mapError {δ : Type*} {result : Except δ α} {failure : δ → ε}
    (fits : ∀ error, kind (failure error)) : Only kind (result.mapError failure) := by
  intro error failed
  cases result with
  | error other =>
      cases failed
      exact fits other
  | ok value => cases failed

theorem map {result : Except ε α} {build : α → β} (first : Only kind result) :
    Only kind (result.map build) := by
  intro error failed
  cases result with
  | error other =>
      cases failed
      exact first _ rfl
  | ok value => cases failed

theorem claim {order : κ → κ → Ordering} {owners : TreeMap κ β order} {key : κ} {owner : β}
    {clash : β → ε} (fits : ∀ other, kind (clash other)) :
    Only kind (Checked.claim owners key owner clash) := by
  unfold Checked.claim
  split
  · exact Only.error (fits _)
  · exact ok _

/-- A pass fails only with errors of a kind when its steps do so from states that they keep. -/
theorem foldlM_keeping {step : σ → α → Except ε σ} {items : List α} (inv : σ → Prop)
    (kept : ∀ state item after, inv state → step state item = .ok after → inv after)
    (each : ∀ item ∈ items, ∀ state, inv state → Only kind (step state item)) {state : σ}
    (start : inv state) : Only kind (items.foldlM step state) := by
  induction items generalizing state with
  | nil => exact ok state
  | cons item rest ih =>
      rw [List.foldlM_cons]
      intro error failed
      cases here : step state item with
      | error other =>
          rw [here] at failed
          cases failed
          exact each item List.mem_cons_self state start _ here
      | ok between =>
          rw [here] at failed
          exact ih (fun other member => each other (List.mem_cons_of_mem _ member))
            (kept state item between start here) error failed

theorem foldlM {step : σ → α → Except ε σ} {items : List α}
    (each : ∀ item ∈ items, ∀ state, Only kind (step state item)) (state : σ) :
    Only kind (items.foldlM step state) :=
  foldlM_keeping (fun _ => True) (fun _ _ _ _ _ => trivial)
    (fun item member state _ => each item member state) trivial

theorem forM {check : α → Except ε Unit} {items : List α}
    (each : ∀ item ∈ items, Only kind (check item)) : Only kind (items.forM check) := by
  induction items with
  | nil => exact ok ()
  | cons item rest ih =>
      intro error failed
      change (check item >>= fun _ => rest.forM check) = .error error at failed
      cases here : check item with
      | error other =>
          rw [here] at failed
          cases failed
          exact each item List.mem_cons_self _ here
      | ok passed =>
          rw [here] at failed
          exact ih (fun other member => each other (List.mem_cons_of_mem _ member)) error failed

theorem mapM {check : α → Except ε β} {items : List α}
    (each : ∀ item ∈ items, Only kind (check item)) : Only kind (items.mapM check) := by
  induction items with
  | nil => exact ok []
  | cons item rest ih =>
      rw [List.mapM_cons]
      intro error failed
      cases here : check item with
      | error other =>
          rw [here] at failed
          cases failed
          exact each item List.mem_cons_self _ here
      | ok first =>
          rw [here] at failed
          cases there : rest.mapM check with
          | error other =>
              rw [there] at failed
              cases failed
              exact ih (fun other member => each other (List.mem_cons_of_mem _ member)) _ there
          | ok more =>
              rw [there] at failed
              cases failed

end Only

end Checked
