import Calculator.Proofs.Postfix.Tree
import Calculator.Proofs.Postfix.Yard

/-!
# The infix grammar

The grammar that says how an infix expression is meant to be read, with one category for each
binding strength:

```
expression → term   | expression (+|-) term
term       → factor | term (*|/) factor
factor     → atom   | factor ^ atom
atom       → number | ( expression )
```

A derivation comes with its tree, in which parentheses have left no trace. The conversion follows
every derivation: while the tokens of a phrase are read, the operators on its right edge wait, and
they bind at least as tightly as the phrase does.

## Main definitions

* `Category`, `Derives`: the grammar.
* `Conversion.Absorbed`: what the state looks like after the tokens of a phrase.

## Main results

* `Conversion.exists_absorbed`: reading a phrase leads to such a state, whatever waits below.
* `toPostfix_of_derives`: an expression is converted to the listing of its tree.
* `evaluates_of_derives`: **conversion and evaluation are correct on the whole grammar**.
-/

namespace Calculator

/-- The categories of the grammar, the loosest binding first. -/
inductive Category where
  /-- Sums and differences. -/
  | expression
  /-- Products and quotients. -/
  | term
  /-- Powers. -/
  | factor
  /-- Numbers and groups. -/
  | atom
  deriving DecidableEq, Repr

namespace Category

/-- The operators between the operands of a phrase. -/
def operators : Category → List Operator
  | expression => [.plus, .minus]
  | term => [.times, .divide]
  | factor => [.power]
  | atom => []

/-- The category of right operands, and of phrases without an operator of their own. -/
def tighter : Category → Category
  | expression => term
  | term => factor
  | factor => atom
  | atom => atom

/-- How tightly a phrase binds. -/
def strength : Category → Nat
  | expression => 1
  | term => 2
  | factor => 3
  | atom => 4

/-- An operator binds as tightly as the phrases that it joins. -/
theorem precedence_of_mem {c : Category} {o : Operator} (h : o ∈ c.operators) :
    o.precedence = c.strength := by
  cases c <;> simp only [operators, List.mem_cons, List.not_mem_nil, or_false] at h
  · rcases h with rfl | rfl <;> rfl
  · rcases h with rfl | rfl <;> rfl
  · rw [h]
    rfl

/-- The right operand of an operator binds more tightly than the operator. -/
theorem strength_lt_tighter {c : Category} {o : Operator} (h : o ∈ c.operators) :
    c.strength < c.tighter.strength := by
  cases c <;> simp_all [operators, strength, tighter]

/-- A phrase without an operator of its own binds at least as tightly. -/
theorem strength_le_tighter (c : Category) : c.strength ≤ c.tighter.strength := by
  cases c <;> decide

end Category

/-- `Derives c tokens tree`: the tokens are a phrase of category `c`, and `tree` is its syntax tree
without the parentheses. -/
inductive Derives : Category → List Token → Tree → Prop
  | number (o : Operand) : Derives .atom [o.token] (.operand o)
  | group {opening closing : Token} {inner : List Token} {tree : Tree}
      (hopening : opening.kind = .leftParen) (hclosing : closing.kind = .rightParen)
      (hinner : Derives .expression inner tree) :
      Derives .atom (opening :: (inner ++ [closing])) tree
  | operation {c : Category} {left right : List Token} {l r : Tree} (sign : Sign)
      (hsign : sign.operator ∈ c.operators) (hleft : Derives c left l)
      (hright : Derives c.tighter right r) :
      Derives c (left ++ sign.token :: right) (.operation sign l r)
  | lift {c : Category} {tokens : List Token} {tree : Tree}
      (h : Derives c.tighter tokens tree) : Derives c tokens tree

/-- A sign binds as its operator does. -/
theorem Sign.precedence_token (sign : Sign) :
    sign.token.precedence = sign.operator.precedence := by
  simp only [Token.precedence, Token.isOperator, sign.kind_eq, decide_true, if_true,
    sign.ofSymbol?_text]

namespace Conversion

/-- The state `after` is what `state` becomes by the tokens of a phrase of the given strength with
the given tree: the operators that have come to wait bind at least as tightly as the phrase, and if
they were let go now, the listing of the tree would have been emitted. -/
structure Absorbed (strength : Nat) (tree : Tree) (state after : Conversion) : Prop where
  /-- A group may be closed now. -/
  previous : after.previous.any Token.isLeftParen = false
  /-- What has come to wait, on top of what waited before. -/
  waiting : ∃ waiting, after.pending = waiting ++ state.pending ∧
    (∀ t ∈ waiting, t.isOperator = true ∧ strength ≤ t.precedence) ∧
    waiting.reverse ++ after.emitted = tree.listing.reverse ++ state.emitted

/-- Whatever waits on top leaves a phrase of the given strength alone. -/
def AllowsAbove (state : Conversion) (strength : Nat) : Prop :=
  ∀ t ∈ state.pending.head?, t.isOperator = true → t.precedence < strength

/-- A loose phrase may stand for a tight one. -/
theorem Absorbed.mono {k m : Nat} {tree : Tree} {state after : Conversion}
    (h : Absorbed k tree state after) (hle : m ≤ k) : Absorbed m tree state after := by
  obtain ⟨waiting, hpending, hstrong, hemitted⟩ := h.waiting
  exact ⟨h.previous, waiting, hpending,
    fun t ht => ⟨(hstrong t ht).1, hle.trans (hstrong t ht).2⟩, hemitted⟩

/-- An operator opens no group. -/
private theorem isLeftParen_of_isOperator {token : Token} (h : token.isOperator = true) :
    token.isLeftParen = false := by
  simp only [Token.isOperator, decide_eq_true_eq] at h
  simp [Token.isLeftParen, h]

/-- A number is absorbed by being emitted. -/
private theorem absorbed_operand (o : Operand) (state : Conversion) :
    ∃ after, state.run [o.token] = .ok after ∧ Absorbed 4 (.operand o) state after := by
  refine ⟨(state.emit o.token).advance o.token, ?_, ?_, [], rfl, by simp, rfl⟩
  · exact run_cons_eq_ok_iff.mpr ⟨_, .number o.kind_eq, rfl⟩
  · simp [advance, Token.isLeftParen, o.kind_eq]

/-- A group is absorbed if the phrase in it is. -/
private theorem absorbed_group {opening closing : Token} {inner : List Token} {tree : Tree}
    {k : Nat} {state filled : Conversion} (hopening : opening.kind = .leftParen)
    (hclosing : closing.kind = .rightParen)
    (hrun : ((state.openGroup opening).advance opening).run inner = .ok filled)
    (h : Absorbed k tree ((state.openGroup opening).advance opening) filled) :
    ∃ after, state.run (opening :: (inner ++ [closing])) = .ok after ∧
      Absorbed 4 tree state after := by
  obtain ⟨waiting, hpending, hstrong, hemitted⟩ := h.waiting
  have hmove : Moves filled closing ((filled.release waiting state.pending).advance closing) :=
    .closes hclosing h.previous hpending
      (fun t ht => isLeftParen_of_isOperator (hstrong t ht).1)
      (by simp [Token.isLeftParen, hopening])
  refine ⟨(filled.release waiting state.pending).advance closing, ?_, ?_, [], rfl, by simp, ?_⟩
  · refine run_cons_eq_ok_iff.mpr ⟨_, .opens hopening, ?_⟩
    rw [run_append, hrun]
    exact run_cons_eq_ok_iff.mpr ⟨_, hmove, rfl⟩
  · simp [advance, Token.isLeftParen, hclosing]
  · exact hemitted

/-- An operator between two absorbed phrases comes to wait in between. -/
private theorem absorbed_operation {c : Category} {left right : List Token} {l r : Tree}
    {sign : Sign} {state : Conversion} (hsign : sign.operator ∈ c.operators)
    (hallows : state.AllowsAbove c.strength)
    (hleft : ∃ after, state.run left = .ok after ∧ Absorbed c.strength l state after)
    (hright : ∀ between : Conversion, between.AllowsAbove c.tighter.strength →
      ∃ after, between.run right = .ok after ∧ Absorbed c.tighter.strength r between after) :
    ∃ after, state.run (left ++ sign.token :: right) = .ok after ∧
      Absorbed c.strength (.operation sign l r) state after := by
  obtain ⟨between, hrunLeft, habsorbed⟩ := hleft
  obtain ⟨first, hpending, hstrong, hemitted⟩ := habsorbed.waiting
  have hprecedence : sign.token.precedence = c.strength :=
    sign.precedence_token.trans (Category.precedence_of_mem hsign)
  -- what waits on the right edge of the left operand leaves, and nothing below it does
  have hmove : Moves between sign.token
      ((between.release first (sign.token :: state.pending)).advance sign.token) := by
    refine .waits sign.kind_eq hpending (fun t ht => ?_) (fun t ht => ?_)
    · simp [yieldsTo, hprecedence, hstrong t ht]
    · simp only [yieldsTo, Bool.and_eq_false_imp, decide_eq_false_iff_not, not_le, hprecedence]
      exact hallows t ht
  have hnext : ((between.release first (sign.token :: state.pending)).advance
      sign.token).AllowsAbove c.tighter.strength := by
    intro t ht hoperator
    obtain rfl : sign.token = t := by simpa [advance, release] using ht
    rw [hprecedence]
    exact Category.strength_lt_tighter hsign
  obtain ⟨after, hrunRight, ⟨hprevious, second, hpending', hstrong', hemitted'⟩⟩ :=
    hright _ hnext
  refine ⟨after, ?_, hprevious, second ++ [sign.token], ?_, ?_, ?_⟩
  · rw [run_append, hrunLeft]
    exact run_cons_eq_ok_iff.mpr ⟨_, hmove, hrunRight⟩
  · rw [hpending']
    simp [advance, release]
  · intro t ht
    rcases List.mem_append.mp ht with ht | ht
    · exact ⟨(hstrong' t ht).1, c.strength_le_tighter.trans (hstrong' t ht).2⟩
    · obtain rfl : t = sign.token := by simpa using ht
      exact ⟨by simp [Token.isOperator, sign.kind_eq], hprecedence.ge⟩
  · simp only [advance, release] at hemitted'
    simp [Tree.listing, hemitted', hemitted]

/-- **Reading a phrase.** Where nothing on top of the waiting tokens binds as tightly as the
phrase, its tokens are read without a defect and absorbed. Induction on the derivation. -/
theorem exists_absorbed {c : Category} {tokens : List Token} {tree : Tree}
    (h : Derives c tokens tree) (state : Conversion) (hallows : state.AllowsAbove c.strength) :
    ∃ after, state.run tokens = .ok after ∧ Absorbed c.strength tree state after := by
  induction h generalizing state with
  | number o => exact absorbed_operand o state
  | @group opening closing inner tree hopening hclosing _ ih =>
      have hinner : ((state.openGroup opening).advance opening).AllowsAbove
          Category.expression.strength := by
        intro t ht hoperator
        obtain rfl : opening = t := by simpa [advance, openGroup] using ht
        simp [Token.isOperator, hopening] at hoperator
      obtain ⟨filled, hrun, habsorbed⟩ := ih _ hinner
      exact absorbed_group hopening hclosing hrun habsorbed
  | operation sign hsign _ _ ihleft ihright =>
      exact absorbed_operation hsign hallows (ihleft state hallows) ihright
  | @lift c tokens tree _ ih =>
      have hle := c.strength_le_tighter
      obtain ⟨after, hrun, habsorbed⟩ :=
        ih state fun t ht hoperator => (hallows t ht hoperator).trans_le hle
      exact ⟨after, hrun, habsorbed.mono hle⟩

end Conversion

/-- An expression is converted to the post-order listing of its tree. -/
theorem toPostfix_of_derives {tokens : List Token} {tree : Tree}
    (h : Derives .expression tokens tree) : toPostfix tokens = .ok tree.listing := by
  obtain ⟨last, hrun, ⟨-, waiting, hpending, hstrong, hemitted⟩⟩ :=
    Conversion.exists_absorbed h {} (by simp [Conversion.AllowsAbove])
  rw [List.append_nil] at hpending
  refine toPostfix_eq_ok_iff.mpr ⟨last, hrun, Conversion.finish_eq_ok_iff.mpr ⟨?_, ?_⟩⟩
  · rw [hpending]
    intro t ht
    have hoperator := (hstrong t ht).1
    simp only [Token.isOperator, decide_eq_true_eq] at hoperator
    simp [Token.isLeftParen, hoperator]
  · rw [hpending, hemitted]
    simp

/-- **Correctness on the whole grammar.** Every token list that the grammar derives is converted to
the post-order listing of its tree, and the listing has the value of the tree, whatever the values
of numbers are and whatever the operators mean. -/
theorem evaluates_of_derives {ν : Type} (operandValue : Token → ν) (apply : Operator → ν → ν → ν)
    {tokens : List Token} {tree : Tree} (h : Derives .expression tokens tree) :
    toPostfix tokens = .ok tree.listing ∧
      evaluatePostfix (.of operandValue apply) tree.listing =
        .ok (tree.value operandValue apply) :=
  ⟨toPostfix_of_derives h, evaluatePostfix_listing tree⟩

/-- The expression `1-((22))^333^22-1`, with the number of its digits as the value of a number:
powers group from the left, and so do differences. -/
theorem evaluates_of_derives_leftmost :
    let number (text : String) : Operand := ⟨{ kind := .number, text }, rfl⟩
    let sign (o : Operator) : Sign := ⟨{ kind := .operator, text := o.symbol }, o, rfl, rfl⟩
    let opening : Token := { kind := .leftParen, text := "(" }
    let closing : Token := { kind := .rightParen, text := ")" }
    let apply (o : Operator) (a b : Int) : Int :=
      match o with
      | .power => Int.pow a b.toNat
      | .times => a * b
      | .divide => a / b
      | .plus => a + b
      | .minus => a - b
    let tokens : List Token :=
      [(number "1").token, (sign .minus).token, opening, opening, (number "22").token, closing,
        closing, (sign .power).token, (number "333").token, (sign .power).token,
        (number "22").token, (sign .minus).token, (number "1").token]
    let listing : List Token :=
      [(number "1").token, (number "22").token, (number "333").token, (sign .power).token,
        (number "22").token, (sign .power).token, (sign .minus).token, (number "1").token,
        (sign .minus).token]
    ∃ tree : Tree, Derives .expression tokens tree ∧ toPostfix tokens = .ok listing ∧
      evaluatePostfix (.of (fun token => (token.text.length : Int)) apply) listing =
        .ok (-64) := by
  intro number sign opening closing apply tokens listing
  have hone : Derives .factor [(number "1").token] (.operand (number "1")) := .lift (.number _)
  have hgroup : Derives .atom
      [opening, opening, (number "22").token, closing, closing] (.operand (number "22")) :=
    .group rfl rfl (.lift (.lift (.lift (.group rfl rfl
      (.lift (.lift (.lift (.number (number "22")))))))))
  have hpower : Derives .factor _ _ :=
    .operation (sign .power) (by decide)
      (.operation (sign .power) (by decide) (.lift hgroup) (.number (number "333")))
      (.number (number "22"))
  have hfirst : Derives .expression _ _ :=
    .operation (sign .minus) (by decide) (.lift (.lift hone)) (.lift hpower)
  have hsecond : Derives .expression _ _ :=
    .operation (sign .minus) (by decide) hfirst (.lift hone)
  have htree : Derives .expression tokens _ := hsecond
  obtain ⟨hlisting, hvalue⟩ :=
    evaluates_of_derives (fun token => (token.text.length : Int)) apply htree
  exact ⟨_, htree, hlisting, hvalue.trans (congrArg Except.ok (by decide))⟩

end Calculator
