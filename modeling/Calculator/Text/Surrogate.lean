import Calculator.Text.Quoted

/-!
# Lone surrogates

UTF-16 spells the characters beyond the first 65536 by two surrogates each. A text may hold a
surrogate that is half of no pair; it is then a text that stands for no characters, and no encoding
takes it. Texts here hold characters only, so each lone surrogate is kept as a stand-in: a character
of a block in which the text has no other character.

## Main definitions

* `Surrogate.replacement`: what stands for lone surrogates where it does not matter which.
* `Surrogate.Block`, `Block.standIn`, `Block.surrogate?`: stand-ins and what they stand for.
* `Block.free?`: a block in which given characters do not lie.
* `Block.firstRun?`: the first lone surrogates of a text.
-/

namespace Calculator.Text.Surrogate

/-- Whether a code point is a surrogate. -/
def isSurrogate (n : Nat) : Bool := 0xD800 ≤ n && n ≤ 0xDFFF

/-- Whether a unit is the first half of a pair. -/
def isHigh (unit : Nat) : Bool := 0xD800 ≤ unit && unit ≤ 0xDBFF

/-- Whether a unit is the second half of a pair. -/
def isLow (unit : Nat) : Bool := 0xDC00 ≤ unit && unit ≤ 0xDFFF

/-- The character that a pair of units stands for. -/
def pair (high low : Nat) : Char :=
  Char.ofNat (0x10000 + (high - 0xD800) * 0x400 + (low - 0xDC00))

/-- The replacement character, for any lone surrogate. -/
def replacement (_ : Nat) : Char := Char.ofNat 0xFFFD

/-- The character with a code point, with `lone` for surrogates. -/
def scalar (lone : Nat → Char) (n : Nat) : Char := if isSurrogate n then lone n else Char.ofNat n

/-- As many characters in a row as there are surrogates, all of them without a meaning of their
own. -/
structure Block where
  /-- The code point of the first of them. -/
  start : Nat
  /-- They lie in the last two planes. -/
  beyond : 0xF0000 ≤ start
  deriving DecidableEq, Repr

namespace Block

/-- How many surrogates there are. -/
def size : Nat := 0x800

/-- The blocks of the two planes of characters that have no meaning of their own. -/
def all : List Block :=
  (List.range 64).map (fun n => ⟨0xF0000 + size * n, Nat.le_add_right _ _⟩)

/-- The stand-in for a surrogate. -/
def standIn (block : Block) (n : Nat) : Char := Char.ofNat (block.start + (n - 0xD800))

/-- Whether a character lies in a block. -/
def contains (block : Block) (c : Char) : Bool :=
  block.start ≤ c.val.toNat && c.val.toNat < block.start + size

/-- The surrogate that a stand-in stands for. -/
def surrogate (block : Block) (c : Char) : Nat := 0xD800 + (c.val.toNat - block.start)

/-- A block in which none of the characters lies. -/
def free? (chars : List Char) : Option Block :=
  all.find? (fun block => chars.all (fun c => !block.contains c))

/-- Where the first stand-ins in a row are, and the surrogates they stand for. -/
def firstRun? (block : Block) (chars : List Char) : Option (Nat × List Nat) :=
  let before := chars.takeWhile (fun c => !block.contains c)
  match (chars.drop before.length).takeWhile block.contains with
  | [] => none
  | run => some (before.length, run.map block.surrogate)

/-- What an encoder says of the first lone surrogates of a text, if there are any. -/
def complaint? (block : Block) (text : String) : Option String :=
  match block.firstRun? text.toList with
  | none => none
  | some (position, [n]) =>
    some ("'utf-8' codec can't encode character '\\u" ++ String.ofList (hexDigits 4 n) ++
      "' in position " ++ toString position ++ ": surrogates not allowed")
  | some (position, run) =>
    some ("'utf-8' codec can't encode characters in position " ++ toString position ++ "-" ++
      toString (position + run.length - 1) ++ ": surrogates not allowed")

/-- A character lies in a block between its bounds. -/
theorem contains_iff {block : Block} {c : Char} :
    block.contains c = true ↔ block.start ≤ c.val.toNat ∧ c.val.toNat < block.start + size := by
  rw [contains, Bool.and_eq_true, decide_eq_true_eq, decide_eq_true_eq]

/-- A stand-in stands for a UTF-16 unit. -/
theorem surrogate_lt {block : Block} {c : Char} (h : block.contains c = true) :
    block.surrogate c < 0x10000 := by
  obtain ⟨-, hlt⟩ := contains_iff.mp h
  rw [size] at hlt
  rw [surrogate]
  omega

/-- No character of those for which a block is free lies in it. -/
theorem not_contains_of_free? {chars : List Char} {block : Block} (h : free? chars = some block)
    {c : Char} (hc : c ∈ chars) : block.contains c = false := by
  have hall := List.find?_some h
  rw [List.all_eq_true] at hall
  simpa using hall c hc

end Block

end Calculator.Text.Surrogate
