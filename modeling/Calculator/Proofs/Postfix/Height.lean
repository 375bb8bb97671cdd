import Calculator.Problem
import Calculator.Proofs.Postfix.Tree
import Calculator.Proofs.Postfix.Underflow
import Mathlib.Data.List.Induction
import Mathlib.Data.Nat.Find

/-!
# The height of the stack

How an evaluation ends can be told without any values. Every number puts one value on the stack and
every operator takes one away, so that the height of the stack at an index is the count of the
numbers before it less the count of the operators. The first operator that finds fewer than two
values decides; if there is none, the height at the end does.

## Main definitions

* `height`: the numbers less the operators before an index.
* `LacksOperand`: an operator finds fewer than two values.

## Main results

* `Evaluation.run_of_supplied`, `Evaluation.run_of_lacksOperand`: what a run comes to.
* `evaluatePostfix_of_supplied`, `evaluatePostfix_of_lacksOperand`: the ends of an evaluation.
* `settled_of_evaluatePostfix`: a value shows how high the stack was all the time.
* `evaluatePostfix_exact`: **the exact outcome of every list of numbers and operators**.
-/

namespace Calculator

/-- The height of the stack at an index: the numbers before it less the operators before it. -/
def height (tokens : List Token) (i : Nat) : Int :=
  (numbers (tokens.take i) : Int) - operators (tokens.take i)

/-- The token at an index is an operator, and fewer than two values are there for it. -/
def LacksOperand (tokens : List Token) (i : Nat) : Prop :=
  ∃ token, tokens[i]? = some token ∧ token.kind = .operator ∧ height tokens i < 2

instance (tokens : List Token) (i : Nat) : Decidable (LacksOperand tokens i) :=
  decidable_of_iff (∃ token ∈ tokens[i]?, token.kind = .operator ∧ height tokens i < 2) Iff.rfl

/-! ### Heights -/

section

variable {tokens before after : List Token} {token : Token} {i : Nat}

/-- The height at an index does not depend on what comes later. -/
theorem height_append (h : i ≤ before.length) : height (before ++ after) i = height before i := by
  rw [height, height, List.take_append_of_le_length h]

/-- The height at the end counts all tokens. -/
theorem height_length :
    height tokens tokens.length = (numbers tokens : Int) - operators tokens := by
  rw [height, List.take_length]

/-- A number raises the height by one. -/
theorem height_concat_number (hkind : token.kind = .number) :
    height (tokens ++ [token]) (tokens ++ [token]).length = height tokens tokens.length + 1 := by
  simp only [height_length, numbers, operators, List.countP_append, List.countP_singleton, hkind]
  simp
  omega

/-- An operator lowers the height by one. -/
theorem height_concat_operator (hkind : token.kind = .operator) :
    height (tokens ++ [token]) (tokens ++ [token]).length = height tokens tokens.length - 1 := by
  simp only [height_length, numbers, operators, List.countP_append, List.countP_singleton, hkind]
  simp
  omega

/-- An operator that lacks an operand still lacks it when more tokens follow. -/
theorem LacksOperand.append (h : LacksOperand before i) : LacksOperand (before ++ after) i := by
  obtain ⟨token, htoken, hkind, hheight⟩ := h
  obtain ⟨hlt, -⟩ := List.getElem?_eq_some_iff.mp htoken
  refine ⟨token, ?_, hkind, ?_⟩
  · rw [List.getElem?_append_left hlt, htoken]
  · rwa [height_append (Nat.le_of_lt hlt)]

end

/-! ### Runs -/

namespace Evaluation

variable {ν : Type} (operandValue : Token → ν) (apply : Operator → ν → ν → ν)
variable {tokens : List Token}

/-- Numbers and operators that all find their operands are read, and the stack has the height that
was counted. Induction on the tokens from the end: the last one meets the stack of those before. -/
theorem run_of_supplied (htokens : ∀ token ∈ tokens, token.IsCalculable)
    (hsupplied : ∀ i, ¬ LacksOperand tokens i) :
    ∃ values : List ν, run (.of operandValue apply) {} tokens = .ok ⟨values, tokens.length⟩ ∧
      (values.length : Int) = height tokens tokens.length ∧ (tokens ≠ [] → values ≠ []) := by
  induction tokens using List.reverseRecOn with
  | nil => exact ⟨[], rfl, rfl, fun h => absurd rfl h⟩
  | append_singleton tokens token ih =>
      obtain ⟨values, hrun, hlength, -⟩ :=
        ih (fun t ht => htokens t (by simp [ht])) (fun i hi => hsupplied i hi.append)
      have hconcat : run (.of operandValue apply) {} (tokens ++ [token]) =
          run (.of operandValue apply) ⟨values, tokens.length⟩ [token] := by
        rw [run_append, hrun]
        rfl
      rcases htokens token (by simp) with hkind | ⟨sign, rfl⟩
      · refine ⟨operandValue token :: values, ?_, ?_, fun _ => List.cons_ne_nil _ _⟩
        · simp only [hconcat, run, step_operand ⟨token, hkind⟩, List.length_append,
            List.length_singleton]
        · rw [height_concat_number hkind, ← hlength, List.length_cons, Int.natCast_succ]
      · -- the operator is supplied, so that two values are there
        have htwo : 2 ≤ values.length := by
          by_contra hfew
          refine hsupplied tokens.length ⟨sign.token, by simp, sign.kind_eq, ?_⟩
          rw [height_append le_rfl, ← hlength]
          omega
        rcases values with - | ⟨second, - | ⟨first, below⟩⟩
        · simp at htwo
        · simp at htwo
        refine ⟨apply sign.operator first second :: below, ?_, ?_, fun _ => List.cons_ne_nil _ _⟩
        · simp only [hconcat, run, step_sign, List.length_append, List.length_singleton]
        · rw [height_concat_operator sign.kind_eq, ← hlength]
          simp

/-- The first operator that lacks an operand ends the run. -/
theorem run_of_lacksOperand {i : Nat} {token : Token}
    (htokens : ∀ token ∈ tokens, token.IsCalculable) (htoken : tokens[i]? = some token)
    (hkind : token.kind = .operator) (hheight : height tokens i < 2)
    (hfirst : ∀ j < i, ¬ LacksOperand tokens j) :
    run (.of operandValue apply) {} tokens =
      .error (.malformed (.missingOperand token.text i)) := by
  obtain ⟨hi, hget⟩ := List.getElem?_eq_some_iff.mp htoken
  have hsplit : tokens = tokens.take i ++ token :: tokens.drop (i + 1) := by
    rw [← hget, List.getElem_cons_drop, List.take_append_drop]
  have hlengthTake : (tokens.take i).length = i := List.length_take_of_le (Nat.le_of_lt hi)
  have hsupplied : ∀ j, ¬ LacksOperand (tokens.take i) j := by
    intro j hj
    have hj' : LacksOperand (tokens.take i ++ tokens.drop i) j := hj.append
    rw [List.take_append_drop] at hj'
    obtain ⟨_, hmem, -, -⟩ := hj
    exact hfirst j (hlengthTake ▸ (List.getElem?_eq_some_iff.mp hmem).1) hj'
  obtain ⟨values, hrun, hlength, -⟩ :=
    run_of_supplied operandValue apply
      (fun t ht => htokens t (List.mem_of_mem_take ht)) hsupplied
  have hfew : values.length < 2 := by
    rw [hsplit, height_append (Nat.le_of_eq hlengthTake.symm)] at hheight
    rw [hlengthTake] at hlength
    omega
  rw [hsplit, run_append, hrun, hlengthTake]
  rcases values with - | ⟨second, - | ⟨first, below⟩⟩
  · simp only [Except.bind, run, step, hkind]
  · simp only [Except.bind, run, step, hkind]
  · simp only [List.length_cons] at hfew
    omega

end Evaluation

/-! ### Whole evaluations -/

section

variable {ν : Type} (operandValue : Token → ν) (apply : Operator → ν → ν → ν)
variable {tokens : List Token}

/-- Of a list that is not empty, the outcome is that of the run and its end. -/
theorem evaluatePostfix_of_ne_nil (arithmetic : Arithmetic ν) (hne : tokens ≠ []) :
    evaluatePostfix arithmetic tokens =
      (Evaluation.run arithmetic {} tokens).bind Evaluation.finish := by
  have hempty : tokens.isEmpty = false := by
    simpa using hne
  simp only [evaluatePostfix, hempty, Bool.false_eq_true, if_false]
  cases Evaluation.run arithmetic {} tokens <;> rfl

/-- Where every operator finds its operands, the height at the end decides: one value is the result,
and more are left over. -/
theorem evaluatePostfix_of_supplied (htokens : ∀ token ∈ tokens, token.IsCalculable)
    (hne : tokens ≠ []) (hsupplied : ∀ i, ¬ LacksOperand tokens i) :
    (height tokens tokens.length = 1 ∧
        ∃ v, evaluatePostfix (.of operandValue apply) tokens = .ok v) ∨
      ∃ count : Nat, 2 ≤ count ∧ height tokens tokens.length = count ∧
        evaluatePostfix (.of operandValue apply) tokens =
          .error (.malformed (.leftover count)) := by
  obtain ⟨values, hrun, hlength, hvalues⟩ :=
    Evaluation.run_of_supplied operandValue apply htokens hsupplied
  rw [evaluatePostfix_of_ne_nil _ hne, hrun, ← hlength]
  rcases values with - | ⟨value, - | ⟨second, rest⟩⟩
  · exact absurd rfl (hvalues hne)
  · exact Or.inl ⟨rfl, value, rfl⟩
  · exact Or.inr ⟨_, by simp, rfl, rfl⟩

/-- The first operator that lacks an operand is what the list is refused for. -/
theorem evaluatePostfix_of_lacksOperand {i : Nat} {token : Token}
    (htokens : ∀ token ∈ tokens, token.IsCalculable) (htoken : tokens[i]? = some token)
    (hkind : token.kind = .operator) (hheight : height tokens i < 2)
    (hfirst : ∀ j < i, ¬ LacksOperand tokens j) :
    evaluatePostfix (.of operandValue apply) tokens =
      .error (.malformed (.missingOperand token.text i)) := by
  have hne : tokens ≠ [] := by
    rintro rfl
    simp at htoken
  rw [evaluatePostfix_of_ne_nil _ hne,
    Evaluation.run_of_lacksOperand operandValue apply htokens htoken hkind hheight hfirst]
  rfl

/-- A list with a value supplies all its operators and has the height one at its end. -/
theorem settled_of_evaluatePostfix {v : ν} (htokens : ∀ token ∈ tokens, token.IsCalculable)
    (hne : tokens ≠ []) (h : evaluatePostfix (.of operandValue apply) tokens = .ok v) :
    (∀ i, ¬ LacksOperand tokens i) ∧ height tokens tokens.length = 1 := by
  have hsupplied : ∀ i, ¬ LacksOperand tokens i := by
    intro i hi
    have hlacks : ∃ i, LacksOperand tokens i := ⟨i, hi⟩
    obtain ⟨token, htoken, hkind, hheight⟩ := Nat.find_spec hlacks
    have herror := evaluatePostfix_of_lacksOperand operandValue apply htokens htoken hkind hheight
      fun j hj => Nat.find_min hlacks hj
    simp [herror] at h
  refine ⟨hsupplied, ?_⟩
  rcases evaluatePostfix_of_supplied operandValue apply htokens hne hsupplied with
    ⟨hheight, -⟩ | ⟨count, -, -, herror⟩
  · exact hheight
  · simp [herror] at h

/-- **The exact outcome of an evaluation** of numbers and operators. Nothing at all is an empty
expression. Otherwise there is a value exactly if every operator finds two values and the height at
the end is one; then the list is the listing of exactly one tree and the value is that of the tree.
If an operator finds fewer than two values, the first such operator is what the list is refused
for, with its index and its text, and if none does but the height at the end is not one, it is two
or more, and the list is refused for so many values. On a stack the outcome is the same, so that
nothing is ever asked of an empty stack. -/
theorem evaluatePostfix_exact (htokens : ∀ token ∈ tokens, token.IsCalculable) :
    (tokens = [] → evaluatePostfix (.of operandValue apply) tokens = .error .empty) ∧
    (tokens ≠ [] →
      ((∃ v, evaluatePostfix (.of operandValue apply) tokens = .ok v) ↔
        (∀ i, ¬ LacksOperand tokens i) ∧ height tokens tokens.length = 1) ∧
      (∀ v, evaluatePostfix (.of operandValue apply) tokens = .ok v →
        (∃! tree : Tree, tree.listing = tokens) ∧
          ∀ tree : Tree, tree.listing = tokens → tree.value operandValue apply = v) ∧
      (∀ i token, tokens[i]? = some token → token.kind = .operator → height tokens i < 2 →
        (∀ j < i, ¬ LacksOperand tokens j) →
        ∃ error, evaluatePostfix (.of operandValue apply) tokens = .error error ∧
          error.toProblem.IsMalformedFor "operand_underflow"
            [("position", .nat i), ("operator", .str token.text)]) ∧
      ((∀ i, ¬ LacksOperand tokens i) → height tokens tokens.length ≠ 1 →
        2 ≤ height tokens tokens.length ∧
          ∃ error, evaluatePostfix (.of operandValue apply) tokens = .error error ∧
            error.toProblem.IsMalformedFor "leftover_operands"
              [("count", .int (height tokens tokens.length))])) ∧
    evaluateOnStack (.of operandValue apply) tokens =
      (evaluatePostfix (.of operandValue apply) tokens).mapError .refused := by
  refine ⟨?_, fun hne => ⟨⟨?_, ?_⟩, ?_, ?_, ?_⟩, evaluateOnStack_eq _ tokens⟩
  · rintro rfl
    rfl
  · rintro ⟨v, hv⟩
    exact settled_of_evaluatePostfix operandValue apply htokens hne hv
  · rintro ⟨hsupplied, hheight⟩
    rcases evaluatePostfix_of_supplied operandValue apply htokens hne hsupplied with
      ⟨-, hv⟩ | ⟨count, htwo, hcount, -⟩
    · exact hv
    · omega
  · intro v hv
    obtain ⟨tree, hlisting, -⟩ := evaluatePostfix_eq_ok_iff.mp hv
    refine ⟨⟨tree, hlisting, ?_⟩, ?_⟩
    · intro other hother
      exact Tree.listing_injective (hother.trans hlisting.symm)
    · rintro other rfl
      exact Except.ok.inj ((evaluatePostfix_listing other).symm.trans hv)
  · intro i token htoken hkind hheight hfirst
    have herror :=
      evaluatePostfix_of_lacksOperand operandValue apply htokens htoken hkind hheight hfirst
    exact ⟨_, herror, Defect.isMalformedFor _⟩
  · intro hsupplied hheight
    rcases evaluatePostfix_of_supplied operandValue apply htokens hne hsupplied with
      ⟨hone, -⟩ | ⟨count, htwo, hcount, herror⟩
    · exact absurd hone hheight
    · rw [hcount]
      exact ⟨by omega, _, herror, Defect.isMalformedFor _⟩

end

/-- In `1 2 + * 3` the product finds one value only, although there are three numbers. -/
theorem evaluatePostfix_exact_product :
    let number (text : String) : Token := { kind := .number, text }
    let sign (o : Operator) : Token := { kind := .operator, text := o.symbol }
    let tokens : List Token := [number "1", number "2", sign .plus, sign .times, number "3"]
    (∀ token ∈ tokens, token.IsCalculable) ∧
      ∃ error, evaluatePostfix Arithmetic.float tokens = .error error ∧
        error.toProblem.IsMalformedFor "operand_underflow"
          [("position", .nat 3), ("operator", .str "*")] := by
  intro number sign tokens
  have htokens : ∀ token ∈ tokens, token.IsCalculable := by
    simp only [tokens, List.forall_mem_cons, List.not_mem_nil, false_imp_iff, implies_true,
      and_true]
    exact ⟨Or.inl rfl, Or.inl rfl, Or.inr ⟨⟨_, .plus, rfl, rfl⟩, rfl⟩,
      Or.inr ⟨⟨_, .times, rfl, rfl⟩, rfl⟩, Or.inl rfl⟩
  obtain ⟨-, -, hlacks, -⟩ :=
    (evaluatePostfix_exact Token.toFloat Operator.apply htokens).2.1 (by simp [tokens])
  exact ⟨htokens, hlacks 3 (sign .times) rfl rfl (by decide) (by decide)⟩

end Calculator
