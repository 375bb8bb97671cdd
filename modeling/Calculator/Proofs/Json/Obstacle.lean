import Calculator.Json.Obstacle
import Mathlib.Data.Nat.Digits.Defs

/-!
# What a writer can do with a value

Texts, words and numbers can be written wherever they stand, unless an integer has too many digits
or a float is not finite. What was read as an integer has no more digits than may be written, and no
length of a text has. Of lists and objects it matters how deep they are nested.

## Main definitions

* `IsWritable`: a strict writer meets no obstacle in a value, wherever it stands.

## Main results

* `obstacle?_arr`, `obstacle?_obj`: lists and objects that have room.
* `isWritable_int`, `isWritable_nat`: integers, and lengths.
* `isWritable_of_integer?`: what was read as an integer can be written.
* `membersObstacle?_eq_none_iff`: members without an obstacle.
-/

namespace Calculator

/-- The greatest length of a text. -/
def Text.maxLength : Nat := 2 ^ 63 - 1

namespace Json

variable {strict : Bool} {room : Nat}

/-! ### Lists and objects -/

/-- A list that has room is an obstacle if an item is. -/
@[simp]
theorem obstacle?_arr (items : List Json) :
    obstacle? strict (room + 1) (.arr items) = itemsObstacle? strict room items := rfl

/-- An object that has room is an obstacle if a member is. -/
@[simp]
theorem obstacle?_obj (members : Fields) :
    obstacle? strict (room + 1) (.obj members) = membersObstacle? strict room members := rfl

/-- The items of a list are written in their order. -/
@[simp]
theorem itemsObstacle?_cons (item : Json) (rest : List Json) :
    itemsObstacle? strict room (item :: rest) =
      (obstacle? strict room item).or (itemsObstacle? strict room rest) := rfl

/-- The members of an object are written in their order. -/
@[simp]
theorem membersObstacle?_cons (key : String) (value : Json) (rest : Fields) :
    membersObstacle? strict room ((key, value) :: rest) =
      (obstacle? strict room value).or (membersObstacle? strict room rest) := rfl

/-- There is no obstacle in nothing. -/
@[simp]
theorem membersObstacle?_nil : membersObstacle? strict room [] = none := rfl

/-- There is no obstacle in a text. -/
@[simp]
theorem obstacle?_str (text : String) : obstacle? strict room (.str text) = none := rfl

/-- There is no obstacle in texts. -/
theorem itemsObstacle?_texts (texts : List String) :
    itemsObstacle? strict room (texts.map .str) = none := by
  induction texts with
  | nil => rfl
  | cons text rest ih => simpa using ih

/-- There is no obstacle in members exactly if there is none in any of their values. -/
theorem membersObstacle?_eq_none_iff {members : Fields} :
    membersObstacle? strict room members = none ↔
      ∀ key value, (key, value) ∈ members → value.obstacle? strict room = none := by
  induction members with
  | nil => simp
  | cons member rest ih =>
      obtain ⟨key, value⟩ := member
      rw [membersObstacle?_cons, Option.or_eq_none_iff, ih]
      constructor
      · rintro ⟨hvalue, hrest⟩ key' value' hmem
        rcases List.mem_cons.mp hmem with heq | hmem
        · obtain ⟨-, rfl⟩ := Prod.mk.inj heq
          exact hvalue
        · exact hrest key' value' hmem
      · exact fun h => ⟨h key value List.mem_cons_self,
          fun key' value' hmem => h key' value' (List.mem_cons_of_mem _ hmem)⟩

/-- Nothing that is absent, false, zero or empty is an obstacle where floats need not be finite. -/
theorem obstacle?_of_not_isTruthy {value : Json} (h : value.isTruthy = false) :
    value.obstacle? false (room + 1) = none := by
  cases value with
  | null | bool _ | float _ | str _ => rfl
  | int n =>
      obtain rfl : n = 0 := by simpa [isTruthy] using h
      rfl
  | arr items =>
      obtain rfl : items = [] := by simpa [isTruthy] using h
      rfl
  | obj members =>
      obtain rfl : members = [] := by simpa [isTruthy] using h
      rfl

/-! ### Values that can be written anywhere -/

/-- A strict writer meets no obstacle in a value, wherever it stands. -/
def IsWritable (value : Json) : Prop := ∀ room, value.obstacle? true room = none

/-- A text can be written anywhere. -/
theorem isWritable_str (text : String) : IsWritable (.str text) := fun _ => rfl

/-- A finite float can be written anywhere. -/
theorem isWritable_float {x : Float} (h : Decimal.isFinite x = true) : IsWritable (.float x) := by
  intro room
  simp [obstacle?, h]

/-- An integer can be written anywhere if it does not have too many digits. -/
theorem isWritable_int {n : Int} (h : n.natAbs < 10 ^ Text.maxDigits) : IsWritable (.int n) := by
  intro room
  have hlength : (Decimal.digitsOf n.natAbs).length ≤ Text.maxDigits :=
    Nat.toDigits_length 10 _ _ (by decide) h
  rw [obstacle?, if_neg (Nat.not_lt.mpr hlength)]

/-- A number that is no greater than a length can be written anywhere. -/
theorem isWritable_nat {n : Nat} (h : n ≤ Text.maxLength) : IsWritable (.nat n) := by
  refine isWritable_int ?_
  have hfew : (10 : Nat) ^ 19 ≤ 10 ^ Text.maxDigits := Nat.pow_le_pow_right (by decide) (by decide)
  have hlength : Text.maxLength < 10 ^ 19 := by decide
  exact Nat.lt_of_le_of_lt h (Nat.lt_of_lt_of_le hlength hfew)

/-- There is no obstacle in members that can be written anywhere. -/
theorem membersObstacle?_of_isWritable {members : Fields}
    (h : ∀ key value, (key, value) ∈ members → value.IsWritable) (room : Nat) :
    membersObstacle? true room members = none :=
  membersObstacle?_eq_none_iff.mpr fun key value hmem => h key value hmem room

/-! ### Integers that were read -/

/-- A digit of any script is one of ten. -/
private theorem digitValue?_lt {c : Char} {d : Nat} (h : Text.digitValue? c = some d) : d < 10 := by
  obtain ⟨start, hfind, rfl⟩ := Option.map_eq_some_iff.mp h
  have hbounds := List.find?_some hfind
  rw [Bool.and_eq_true, decide_eq_true_eq, decide_eq_true_eq] at hbounds
  omega

/-- The digits of a written number are digits. -/
private theorem lt_of_groupedDigits? {afterDigit : Bool} {chars : List Char} {digits : List Nat}
    (h : Text.groupedDigits? afterDigit chars = some digits) : ∀ d ∈ digits, d < 10 := by
  induction chars generalizing afterDigit digits with
  | nil =>
      rw [Text.groupedDigits?] at h
      split at h
      · obtain rfl := Option.some.inj h
        exact nofun
      · simp at h
  | cons c rest ih =>
      rw [Text.groupedDigits?] at h
      split at h
      · split at h
        · exact ih h
        · simp at h
      · split at h
        · next d hdigit =>
          obtain ⟨later, hlater, rfl⟩ := Option.map_eq_some_iff.mp h
          exact List.forall_mem_cons.mpr ⟨digitValue?_lt hdigit, ih hlater⟩
        · simp at h

/-- Digits spell a number below the power of ten with as many zeros. -/
private theorem numberOfDigits_lt {digits : List Nat} (h : ∀ d ∈ digits, d < 10) :
    Text.numberOfDigits digits < 10 ^ digits.length := by
  -- each further digit is less than the step from one multiple of ten to the next
  suffices hfold : ∀ n bound, n < bound →
      digits.foldl (fun n d => 10 * n + d) n < bound * 10 ^ digits.length by
    simpa [Text.numberOfDigits] using hfold 0 1 Nat.one_pos
  induction digits with
  | nil => intro n bound hn; simpa using hn
  | cons d rest ih =>
      intro n bound hn
      obtain ⟨hd, hrest⟩ := List.forall_mem_cons.mp h
      have hstep : 10 * n + d < bound * 10 := by omega
      have hfold := ih hrest (10 * n + d) (bound * 10) hstep
      rwa [List.foldl_cons, List.length_cons, Nat.pow_succ', ← Nat.mul_assoc]

/-- What is read as a natural number does not have too many digits. -/
private theorem lt_of_natural? {chars : List Char} {n : Nat} (h : Text.natural? chars = some n) :
    n < 10 ^ Text.maxDigits := by
  rw [Text.natural?] at h
  split at h
  · next digits hdigits =>
    split at h
    · next hlength =>
      obtain rfl := Option.some.inj h
      exact (numberOfDigits_lt (lt_of_groupedDigits? hdigits)).trans_le
        (Nat.pow_le_pow_right (by decide) hlength)
    · simp at h
  · simp at h

/-- **What was read as an integer can be written.** -/
theorem isWritable_of_integer? {text : String} {n : Int} (h : Text.integer? text = some n) :
    IsWritable (.int n) := by
  refine isWritable_int ?_
  rw [Text.integer?] at h
  split at h
  all_goals
    obtain ⟨m, hm, rfl⟩ := Option.map_eq_some_iff.mp h
    simpa using lt_of_natural? hm

end Json

end Calculator
