/-!
# The shortest decimal of a float

A finite float stands for all the reals that round to it. Among the decimals in that interval,
`Decimal.shortest` takes one with the fewest digits, and of those the nearest to the float's value.
All arithmetic is exact, on natural numbers.

## Main definitions

* `Decimal.Binary`: the value `m * 2 ^ q` of a finite float.
* `Decimal.Binary.readsBack`: whether a decimal lies in the interval.
* `Decimal.shortest`: the selection.

## Main results

* `Decimal.readsBack_of_shortest?`: whatever the search finds lies in the interval.
-/

namespace Calculator.Decimal

/-- The value `m * 2 ^ q` of a finite float without its sign. -/
structure Binary where
  /-- The significand. -/
  m : Nat
  /-- The exponent of two. -/
  q : Int
  /-- Whether the float below is only half as far away as the float above. -/
  narrowBelow : Bool

/-- The value that the bits of a finite float stand for. -/
def Binary.ofBits (bits : UInt64) : Binary :=
  let exponent := ((bits >>> 52) &&& 0x7FF).toNat
  let fraction := (bits &&& 0xFFFFFFFFFFFFF).toNat
  if exponent = 0 then ⟨fraction, -1074, false⟩
  else ⟨Nat.pow 2 52 + fraction, (exponent : Int) - 1075, fraction = 0 ∧ 1 < exponent⟩

/-- The decimal number `digits * 10 ^ exponent`. -/
structure Scaled where
  /-- The digits, as a number. -/
  digits : Nat
  /-- The exponent of ten. -/
  exponent : Int
  deriving DecidableEq, Repr

/-- Compare `a * 10 ^ i` with `n * 2 ^ j`, exactly. -/
def compareScaled (a : Nat) (i : Int) (n : Nat) (j : Int) : Ordering :=
  compare (a * Nat.pow 10 i.toNat * Nat.pow 2 (-j).toNat)
    (n * Nat.pow 2 j.toNat * Nat.pow 10 (-i).toNat)

/-- Whether a decimal lies among the reals that round to the float: between the halfway points to
its neighbours, which belong to the float with the even significand. -/
def Binary.readsBack (x : Binary) (d : Scaled) : Bool :=
  let low := if x.narrowBelow then 4 * x.m - 1 else 4 * x.m - 2
  let closed := x.m % 2 = 0
  let atLow := compareScaled d.digits d.exponent low (x.q - 2)
  let atHigh := compareScaled d.digits d.exponent (4 * x.m + 2) (x.q - 2)
  (atLow == .gt || (closed && atLow == .eq)) && (atHigh == .lt || (closed && atHigh == .eq))

/-- The quotient of the value by `10 ^ e`, rounded down. -/
def Binary.quotient (x : Binary) (e : Int) : Nat :=
  (x.m * Nat.pow 2 x.q.toNat * Nat.pow 10 (-e).toNat) /
    (Nat.pow 2 (-x.q).toNat * Nat.pow 10 e.toNat)

/-- The larger of two neighbours on the grid of `10 ^ e` is taken when it is nearer to the value, or
as near and even. -/
def Binary.nearerAbove (x : Binary) (below : Nat) (e : Int) : Bool :=
  match compareScaled (2 * below + 1) e x.m (x.q + 1) with
  | .lt => true
  | .gt => false
  | .eq => below % 2 = 1

/-- The best decimal on the grid of `10 ^ e` that reads back: one of the value's two neighbours. -/
def Binary.onGrid? (x : Binary) (e : Int) : Option Scaled :=
  let below := x.quotient e
  match x.readsBack ⟨below, e⟩, x.readsBack ⟨below + 1, e⟩ with
  | true, true => some (if x.nearerAbove below e then ⟨below + 1, e⟩ else ⟨below, e⟩)
  | true, false => some ⟨below, e⟩
  | false, true => some ⟨below + 1, e⟩
  | false, false => none

/-- An exponent of ten that is above the value's leading digit by at most two. -/
def Binary.ceiling (x : Binary) : Int :=
  ((x.m.log2 : Int) + 1 + x.q) * 30103 / 100000 + 2

/-- The coarsest grid with a decimal that reads back, among the twenty-two grids below `top`. -/
def Binary.search (x : Binary) (top : Int) : Option Scaled :=
  (List.range 22).findSome? (fun (place : Nat) =>
    match x.onGrid? (top - place) with
    | some d => if d.digits = 0 then none else some d
    | none => none)

/-- The value itself, written out. -/
def Binary.exact (x : Binary) : Scaled :=
  if 0 ≤ x.q then ⟨x.m * Nat.pow 2 x.q.toNat, 0⟩
  else ⟨x.m * Nat.pow 5 (-x.q).toNat, x.q⟩

/-- Move the zeros at the end of the digits into the exponent, at most `fuel` of them. -/
def stripZeros (fuel : Nat) (d : Scaled) : Scaled :=
  match fuel with
  | 0 => d
  | fuel + 1 =>
    if d.digits ≠ 0 ∧ d.digits % 10 = 0 then stripZeros fuel ⟨d.digits / 10, d.exponent + 1⟩ else d

/-- The shortest decimal that reads back, if the search finds one. -/
def shortest? (x : Binary) : Option Scaled := x.search x.ceiling

/-- The shortest decimal of a value other than zero, without zeros at the end. -/
def shortest (x : Binary) : Scaled :=
  let d := (shortest? x).getD x.exact
  stripZeros (d.digits.log2 + 1) d

/-- A decimal that a grid offers lies in the float's interval. -/
theorem readsBack_of_onGrid? {x : Binary} {e : Int} {d : Scaled} (h : x.onGrid? e = some d) :
    x.readsBack d = true := by
  unfold Binary.onGrid? at h
  dsimp only at h
  split at h
  · next h₁ h₂ =>
    split at h <;> (obtain rfl := Option.some.inj h; assumption)
  · next h₁ h₂ => obtain rfl := Option.some.inj h; exact h₁
  · next h₁ h₂ => obtain rfl := Option.some.inj h; exact h₂
  · exact absurd h (by simp)

/-- Whatever the search finds lies in the float's interval. -/
theorem readsBack_of_shortest? {x : Binary} {d : Scaled} (h : shortest? x = some d) :
    x.readsBack d = true := by
  obtain ⟨place, -, hplace⟩ := List.exists_of_findSome?_eq_some h
  split at hplace
  · next hgrid =>
    split at hplace
    · exact absurd hplace (by simp)
    · obtain rfl := Option.some.inj hplace
      exact readsBack_of_onGrid? hgrid
  · exact absurd hplace (by simp)

end Calculator.Decimal
