import Mathlib.Data.List.Infix
import Mathlib.Data.Rat.Defs

/-!
# Splitting texts

Prefixes, suffixes and separators of lists of characters, and the blanks around them.
-/

namespace Text

variable {α : Type*} [DecidableEq α]

/-- What follows a prefix. -/
def stripPrefix (front text : List α) : Option (List α) :=
  if front <+: text then some (text.drop front.length) else none

/-- What comes before a suffix. -/
def stripSuffix (back text : List α) : Option (List α) :=
  if back <:+ text then some (text.take (text.length - back.length)) else none

/-- Split at the first separator. -/
def splitOnce (separator : List α) : List α → Option (List α × List α)
  | [] => none
  | letter :: rest =>
      if separator <+: letter :: rest then some ([], (letter :: rest).drop separator.length)
      else (splitOnce separator rest).map fun parts => (letter :: parts.1, parts.2)

/-- Split at the last mark. -/
def splitLast (mark : α) (text : List α) : Option (List α × List α) :=
  (splitOnce [mark] text.reverse).map fun parts => (parts.2.reverse, parts.1.reverse)

/-- Drop the blanks at both ends. -/
def trim (isBlank : α → Bool) (text : List α) : List α :=
  ((text.dropWhile isBlank).reverse.dropWhile isBlank).reverse

@[simp]
theorem stripPrefix_append (front text : List α) :
    stripPrefix front (front ++ text) = some text := by
  simp [stripPrefix]

theorem eq_append_of_stripPrefix {front text rest : List α}
    (stripped : stripPrefix front text = some rest) : text = front ++ rest := by
  unfold stripPrefix at stripped
  split at stripped
  · next begins =>
      cases stripped
      obtain ⟨rest, rfl⟩ := begins
      simp
  · cases stripped

/-- A text that begins otherwise has no such prefix. -/
theorem stripPrefix_of_head {first letter : α} {front text : List α} (other : first ≠ letter) :
    stripPrefix (first :: front) (letter :: text) = none := by
  unfold stripPrefix
  rw [if_neg]
  intro begins
  exact other (List.cons_prefix_cons.mp begins).1

@[simp]
theorem stripSuffix_append (text back : List α) : stripSuffix back (text ++ back) = some text := by
  simp [stripSuffix]

theorem eq_append_of_stripSuffix {back text rest : List α}
    (stripped : stripSuffix back text = some rest) : text = rest ++ back := by
  unfold stripSuffix at stripped
  split at stripped
  · next ends =>
      cases stripped
      obtain ⟨rest, rfl⟩ := ends
      simp
  · cases stripped

/-- The first part of a split text does not contain the separator. -/
theorem of_splitOnce {separator text first second : List α}
    (split : splitOnce separator text = some (first, second)) (nonempty : separator ≠ []) :
    text = first ++ separator ++ second ∧ ¬ separator <:+: first := by
  induction text generalizing first second with
  | nil => cases split
  | cons letter rest ih =>
      unfold splitOnce at split
      split at split
      · next begins =>
          cases split
          obtain ⟨tail, whole⟩ := begins
          rw [← whole]
          refine ⟨by simp, ?_⟩
          intro inside
          exact nonempty (List.infix_nil.mp inside)
      · next continues =>
          obtain ⟨⟨before, after⟩, later, same⟩ := Option.map_eq_some_iff.mp split
          cases same
          obtain ⟨whole, absent⟩ := ih later
          refine ⟨by simp [whole], ?_⟩
          intro inside
          rcases List.infix_cons_iff.mp inside with here | there
          · apply continues
            rw [whole]
            have grows : letter :: before <+: letter :: (before ++ separator ++ after) :=
              ⟨separator ++ after, by simp⟩
            exact here.trans grows
          · exact absent there

theorem splitOnce_of_absent {separator text : List α} (absent : ¬ separator <:+: text) :
    splitOnce separator text = none := by
  induction text with
  | nil => rfl
  | cons letter rest ih =>
      unfold splitOnce
      rw [if_neg fun begins => absent begins.isInfix,
        ih fun inside => absent (List.infix_cons inside)]
      rfl

/-- Where the first letter of the separator does not occur before, the split is there. -/
theorem splitOnce_append {mark : α} {separator first second : List α}
    (absent : mark ∉ first) :
    splitOnce (mark :: separator) (first ++ (mark :: separator) ++ second) =
      some (first, second) := by
  induction first with
  | nil => simp [splitOnce]
  | cons letter rest ih =>
      rw [List.mem_cons, not_or] at absent
      rw [List.cons_append, List.cons_append, splitOnce, if_neg, ih absent.2]
      · rfl
      · intro begins
        exact absent.1 (List.cons_prefix_cons.mp begins).1

omit [DecidableEq α] in
theorem trim_infix (isBlank : α → Bool) (text : List α) : trim isBlank text <:+: text := by
  unfold trim
  have front : text.dropWhile isBlank <:+ text := List.dropWhile_suffix _
  have back : ((text.dropWhile isBlank).reverse.dropWhile isBlank).reverse <+:
      text.dropWhile isBlank := by
    have ends : (text.dropWhile isBlank).reverse.dropWhile isBlank <:+
        (text.dropWhile isBlank).reverse := List.dropWhile_suffix _
    simpa using List.reverse_prefix.mpr ends
  exact back.isInfix.trans front.isInfix

omit [DecidableEq α] in
/-- A text without a blank at either end is kept. -/
theorem trim_eq_self {isBlank : α → Bool} {text : List α}
    (front : ∀ letter ∈ text.head?, isBlank letter = false)
    (back : ∀ letter ∈ text.getLast?, isBlank letter = false) : trim isBlank text = text := by
  have kept : text.dropWhile isBlank = text := by
    cases text with
    | nil => rfl
    | cons letter rest => simp [front letter rfl]
  unfold trim
  rw [kept]
  have ends : text.reverse.dropWhile isBlank = text.reverse := by
    cases backward : text.reverse with
    | nil => rfl
    | cons letter rest =>
        have last : letter ∈ text.getLast? := by
          rw [← List.head?_reverse, backward]
          rfl
        simp [back letter last]
  rw [ends, List.reverse_reverse]

omit [DecidableEq α] in
/-- Texts that end in a separator and a part without one are told by their parts. -/
theorem append_cons_inj_of_last {mark : α} {first first' last last' : List α}
    (absent : mark ∉ last) (absent' : mark ∉ last')
    (same : first ++ mark :: last = first' ++ mark :: last') : first = first' ∧ last = last' := by
  rcases List.append_eq_append_iff.mp same with ⟨between, rfl, whole⟩ | ⟨between, rfl, whole⟩
  · cases between with
    | nil => simpa using whole
    | cons letter rest =>
        cases whole
        simp at absent
  · cases between with
    | nil => simpa [eq_comm] using whole
    | cons letter rest =>
        cases whole
        simp at absent'

/-! ## Decimal numbers -/

theorem digitChar_inj {first second : Nat} (small : first < 10) (small' : second < 10)
    (same : first.digitChar = second.digitChar) : first = second := by
  have values := congrArg Char.toNat same
  rw [Nat.toNat_digitChar_of_lt_ten small, Nat.toNat_digitChar_of_lt_ten small'] at values
  omega

/-- A number is told by its decimal digits. -/
theorem toDigits_inj {first second : Nat}
    (same : Nat.toDigits 10 first = Nat.toDigits 10 second) : first = second := by
  induction first using Nat.strongRecOn generalizing second with
  | ind first ih =>
      rw [Nat.toDigits_eq_if (by decide), @Nat.toDigits_eq_if 10 second (by decide)] at same
      split at same
      · next small =>
        split at same
        · next small' => exact digitChar_inj small small' (List.singleton_inj.mp same)
        · have longer := congrArg List.length same
          have some := @Nat.length_toDigits_pos 10 (second / 10)
          rw [List.length_append, List.length_singleton, List.length_singleton] at longer
          omega
      · next large =>
        split at same
        · have longer := congrArg List.length same
          have some := @Nat.length_toDigits_pos 10 (first / 10)
          rw [List.length_append, List.length_singleton, List.length_singleton] at longer
          omega
        · obtain ⟨front, last⟩ := List.append_inj' same rfl
          have tens := ih (first / 10) (by omega) front
          have ones := digitChar_inj (Nat.mod_lt _ (by decide)) (Nat.mod_lt _ (by decide))
            (List.singleton_inj.mp last)
          omega

theorem toString_inj {first second : Nat} (same : toString first = toString second) :
    first = second := by
  rw [Nat.toString_eq_ofList_toDigits, Nat.toString_eq_ofList_toDigits] at same
  exact toDigits_inj (String.ofList_injective same)

/-- The digits of a fraction behind the point, as many as it has, up to a bound. -/
def fractionDigits (den : Nat) : Nat → Nat → List Char
  | 0, _ => []
  | count + 1, rest =>
      if rest = 0 then []
      else Nat.digitChar (rest * 10 / den) :: fractionDigits den count (rest * 10 % den)

/-- A number in decimals, with a point where it is no integer.  A number with finitely many decimals
has at most as many as its denominator has binary digits. -/
def decimal (value : ℚ) : String :=
  let digits := fractionDigits value.den value.den.log2 (value.num.natAbs % value.den)
  (if value < 0 then "-" else "") ++ toString (value.num.natAbs / value.den) ++
    if digits = [] then "" else "." ++ String.ofList digits

example : [decimal (-63 / 2), decimal 30, decimal (1201 / 40)] = ["-31.5", "30", "30.025"] := by
  decide +kernel

end Text
