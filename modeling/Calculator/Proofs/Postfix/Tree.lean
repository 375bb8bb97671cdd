import Calculator.Postfix.Evaluation
import Mathlib.Data.List.Basic

/-!
# Trees of operations

A `Tree` is an expression without its spelling: number tokens at the leaves, operator tokens at the
nodes. Its post-order listing is what a conversion should give and what the stack machine should
read, and its value is computed from the leaves up, for any values of number tokens and any meaning
of the operators.

## Main definitions

* `Operand`, `Sign`: the tokens that a tree is made of; `Token.IsCalculable`: being one of them.
* `numbers`, `operators`: how many there are among tokens.
* `Tree`, `Tree.listing`, `Tree.value`.
* `Arithmetic.of`: the arithmetic given by a value for each number token and a function for each
  operator.

## Main results

* `Tree.listing_injective`: a tree is determined by its listing.
* `Evaluation.run_listing`: reading a listing puts the value of its tree on the stack.
* `Evaluation.exists_forest`: whatever the machine reads without a failure is a sequence of
  listings.
* `evaluatePostfix_eq_ok_iff`: **the machine gives values to listings of trees only**, and to each
  the value of its tree.
* `evaluatePostfix_of_isCalculable`: numbers and operators are refused for their arrangement only.
-/

namespace Calculator

/-- A token that stands for a number. -/
structure Operand where
  /-- The token. -/
  token : Token
  /-- It is a number. -/
  kind_eq : token.kind = .number

/-- A token that stands for one of the operators. -/
structure Sign where
  /-- The token. -/
  token : Token
  /-- The operator. -/
  operator : Operator
  /-- The token is an operator. -/
  kind_eq : token.kind = .operator
  /-- The token is written as the operator is. -/
  text_eq : token.text = operator.symbol

/-- An operator token with a known text is a sign. -/
def Sign.ofToken {token : Token} {o : Operator} (hkind : token.kind = .operator)
    (htext : Operator.ofSymbol? token.text = some o) : Sign :=
  ⟨token, o, hkind, (Operator.symbol_of_ofSymbol? htext).symm⟩

/-- The text of a sign leads to its operator. -/
theorem Sign.ofSymbol?_text (sign : Sign) :
    Operator.ofSymbol? sign.token.text = some sign.operator := by
  rw [sign.text_eq, Operator.ofSymbol?_symbol]

/-- An operand is determined by its token. -/
theorem Operand.eq_of_token {first second : Operand} (h : first.token = second.token) :
    first = second := by
  cases first
  cases second
  simpa using h

/-- A sign is determined by its token. -/
theorem Sign.eq_of_token {first second : Sign} (h : first.token = second.token) :
    first = second := by
  have hoperator : first.operator = second.operator := by
    have htext := first.ofSymbol?_text
    rw [h, second.ofSymbol?_text] at htext
    exact (Option.some.inj htext).symm
  cases first
  cases second
  simp_all

/-- A number, or an operator with a known text. -/
def Token.IsCalculable (token : Token) : Prop :=
  token.kind = .number ∨ ∃ sign : Sign, sign.token = token

/-- The number of number tokens. -/
def numbers (tokens : List Token) : Nat := tokens.countP (·.kind = .number)

/-- The number of operator tokens. -/
def operators (tokens : List Token) : Nat := tokens.countP (·.kind = .operator)

/-- A binary tree of operations on numbers. -/
inductive Tree where
  /-- A number. -/
  | operand (operand : Operand)
  /-- An operation on two trees. -/
  | operation (sign : Sign) (left right : Tree)

namespace Tree

/-- The tokens in post-order: the left operand, the right operand, the operator. -/
def listing : Tree → List Token
  | operand o => [o.token]
  | operation sign left right => left.listing ++ right.listing ++ [sign.token]

/-- The value from the leaves up, the left operand first. -/
def value {ν : Type} (operandValue : Token → ν) (apply : Operator → ν → ν → ν) : Tree → ν
  | operand o => operandValue o.token
  | operation sign left right =>
    apply sign.operator (left.value operandValue apply) (right.value operandValue apply)

/-- A listing holds at least one token. -/
theorem listing_ne_nil (tree : Tree) : tree.listing ≠ [] := by
  cases tree <;> simp [listing]

/-- A listing holds numbers and operators with known texts only. -/
theorem isCalculable_of_mem_listing {tree : Tree} {token : Token} (h : token ∈ tree.listing) :
    token.IsCalculable := by
  induction tree with
  | operand o =>
      obtain rfl : token = o.token := by simpa [listing] using h
      exact Or.inl o.kind_eq
  | operation sign left right ihl ihr =>
      simp only [listing, List.mem_append, List.mem_singleton] at h
      rcases h with (h | h) | rfl
      · exact ihl h
      · exact ihr h
      · exact Or.inr ⟨sign, rfl⟩

/-- A listing holds one number more than it holds operators. -/
theorem countP_listing (tree : Tree) :
    tree.listing.countP (·.kind = .number) = tree.listing.countP (·.kind = .operator) + 1 := by
  induction tree with
  | operand o => simp [listing, o.kind_eq]
  | operation sign left right ihl ihr =>
      simp only [listing, List.countP_append, List.countP_singleton, sign.kind_eq, ihl, ihr]
      simp
      omega

/-- A listing is read from its end in one way only: what stands before it and its tree are
determined. -/
theorem eq_of_append_listing {first second : Tree} {before before' : List Token}
    (h : before ++ first.listing = before' ++ second.listing) :
    before = before' ∧ first = second := by
  induction first generalizing second before before' with
  | operand o =>
      cases second with
      | operand o' =>
          obtain ⟨hbefore, htoken⟩ := List.append_inj' h rfl
          obtain rfl : o = o' := Operand.eq_of_token (List.singleton_inj.mp htoken)
          exact ⟨hbefore, rfl⟩
      | operation sign' left' right' =>
          simp only [listing, ← List.append_assoc] at h
          obtain ⟨-, htoken⟩ := List.append_inj' h rfl
          have hkind := o.kind_eq
          rw [List.singleton_inj.mp htoken, sign'.kind_eq] at hkind
          contradiction
  | operation sign left right ihl ihr =>
      cases second with
      | operand o' =>
          simp only [listing, ← List.append_assoc] at h
          obtain ⟨-, htoken⟩ := List.append_inj' h rfl
          have hkind := sign.kind_eq
          rw [List.singleton_inj.mp htoken, o'.kind_eq] at hkind
          contradiction
      | operation sign' left' right' =>
          -- the sign comes off first, then the right operand, then the left one
          simp only [listing, ← List.append_assoc] at h
          obtain ⟨hoperands, htoken⟩ := List.append_inj' h rfl
          obtain rfl : sign = sign' := Sign.eq_of_token (List.singleton_inj.mp htoken)
          obtain ⟨hleft, rfl⟩ := ihr hoperands
          obtain ⟨hbefore, rfl⟩ := ihl hleft
          exact ⟨hbefore, rfl⟩

/-- A tree is determined by its listing. -/
theorem listing_injective : Function.Injective listing := by
  intro first second h
  have happend : [] ++ first.listing = [] ++ second.listing := h
  exact (eq_of_append_listing happend).2

end Tree

/-- The arithmetic of arbitrary values for number tokens and an arbitrary function for each
operator. -/
def Arithmetic.of {ν : Type} (operandValue : Token → ν) (apply : Operator → ν → ν → ν) :
    Arithmetic ν where
  operand := operandValue
  compute? := fun text a b => (Operator.ofSymbol? text).map (fun o => apply o a b)

/-- Double precision is such an arithmetic. -/
theorem Arithmetic.float_eq_of : Arithmetic.float = Arithmetic.of Token.toFloat Operator.apply :=
  rfl

namespace Evaluation

variable {ν : Type} {operandValue : Token → ν} {apply : Operator → ν → ν → ν}

/-! ### Listings are evaluated -/

/-- Tokens are read one list after the other. -/
theorem run_append (arithmetic : Arithmetic ν) (state : Evaluation ν) (first second : List Token) :
    state.run arithmetic (first ++ second) =
      (state.run arithmetic first).bind (fun s => s.run arithmetic second) := by
  induction first generalizing state with
  | nil => rfl
  | cons token rest ih =>
      simp only [List.cons_append, run]
      cases state.step arithmetic token with
      | ok next => exact ih next
      | error e => rfl

/-- A number goes on the stack. -/
theorem step_operand (o : Operand) (values : List ν) (n : Nat) :
    step (.of operandValue apply) ⟨values, n⟩ o.token =
      .ok ⟨operandValue o.token :: values, n + 1⟩ := by
  simp only [step, o.kind_eq]
  rfl

/-- A sign replaces the two topmost values by the result of its operator. -/
theorem step_sign (sign : Sign) (first second : ν) (below : List ν) (n : Nat) :
    step (.of operandValue apply) ⟨second :: first :: below, n⟩ sign.token =
      .ok ⟨apply sign.operator first second :: below, n + 1⟩ := by
  simp only [step, sign.kind_eq, Arithmetic.of, sign.ofSymbol?_text, Option.map_some]

/-- Reading the listing of a tree puts its value on the stack. -/
theorem run_listing (tree : Tree) (values : List ν) (n : Nat) :
    run (.of operandValue apply) ⟨values, n⟩ tree.listing =
      .ok ⟨tree.value operandValue apply :: values, n + tree.listing.length⟩ := by
  induction tree generalizing values n with
  | operand o =>
      simp only [Tree.listing, run, step_operand]
      rfl
  | operation sign left right ihl ihr =>
      simp only [Tree.listing, run_append, ihl, ihr, Except.bind, run, step_sign]
      simp [Tree.value, Nat.add_assoc]

/-! ### Only listings are evaluated -/

/-- The texts that a forest was read from: the listings of its trees, the last tree first in the
forest. -/
def forestListing (forest : List Tree) : List Token := forest.reverse.flatMap Tree.listing

/-- A step from the values of a forest leads to the values of a forest. -/
theorem exists_forest_step {forest : List Tree} {n : Nat} {token : Token} {next : Evaluation ν}
    (h : step (.of operandValue apply) ⟨forest.map (Tree.value operandValue apply), n⟩ token =
      .ok next) :
    ∃ grown : List Tree, next.values = grown.map (Tree.value operandValue apply) ∧
      forestListing grown = forestListing forest ++ [token] := by
  cases hkind : token.kind with
  | number =>
      simp only [step, hkind, Except.ok.injEq] at h
      refine ⟨.operand ⟨token, hkind⟩ :: forest, ?_, by simp [forestListing, Tree.listing]⟩
      rw [← h]
      rfl
  | operator =>
      -- two trees have to be there, and the operator joins them
      rcases forest with - | ⟨right, - | ⟨left, rest⟩⟩
      · simp [step, hkind] at h
      · simp [step, hkind] at h
      simp only [step, hkind, List.map_cons, Arithmetic.of] at h
      cases htext : Operator.ofSymbol? token.text with
      | none => simp [htext] at h
      | some o =>
          simp only [htext, Option.map_some, Except.ok.injEq] at h
          refine ⟨.operation (.ofToken hkind htext) left right :: rest, ?_, ?_⟩
          · rw [← h]
            rfl
          · simp [forestListing, Tree.listing, Sign.ofToken]
  | leftParen => simp [step, hkind] at h
  | rightParen => simp [step, hkind] at h

/-- Whatever is read without a failure is a sequence of listings, and the values on the stack are
those of their trees. -/
theorem exists_forest {forest : List Tree} {n : Nat} {tokens : List Token} {last : Evaluation ν}
    (h : run (.of operandValue apply) ⟨forest.map (Tree.value operandValue apply), n⟩ tokens =
      .ok last) :
    ∃ grown : List Tree, last.values = grown.map (Tree.value operandValue apply) ∧
      forestListing grown = forestListing forest ++ tokens := by
  induction tokens generalizing forest n with
  | nil =>
      simp only [run, Except.ok.injEq] at h
      exact ⟨forest, by rw [← h], by simp⟩
  | cons token rest ih =>
      simp only [run] at h
      cases hstep : step (.of operandValue apply)
          ⟨forest.map (Tree.value operandValue apply), n⟩ token with
      | error e => simp [hstep] at h
      | ok next =>
          simp only [hstep] at h
          obtain ⟨middle, hvalues, hlisting⟩ := exists_forest_step hstep
          obtain ⟨values, position⟩ := next
          obtain rfl : values = middle.map (Tree.value operandValue apply) := hvalues
          obtain ⟨grown, hlast, hgrown⟩ := ih h
          refine ⟨grown, hlast, ?_⟩
          rw [hgrown, hlisting, List.append_assoc, List.singleton_append]

/-! ### Failures -/

variable (operandValue apply)

/-- What a number or an operator does to the state: it is read, or it lacks an operand. -/
theorem step_of_isCalculable {token : Token} (h : token.IsCalculable) (state : Evaluation ν) :
    (∃ next, state.step (.of operandValue apply) token = .ok next) ∨
      ∃ defect, state.step (.of operandValue apply) token = .error (.malformed defect) := by
  obtain ⟨values, n⟩ := state
  rcases h with hkind | ⟨sign, rfl⟩
  · exact Or.inl ⟨_, step_operand ⟨token, hkind⟩ values n⟩
  · rcases values with - | ⟨second, - | ⟨first, below⟩⟩
    · exact Or.inr ⟨.missingOperand sign.token.text n, by simp [step, sign.kind_eq]⟩
    · exact Or.inr ⟨.missingOperand sign.token.text n, by simp [step, sign.kind_eq]⟩
    · exact Or.inl ⟨_, step_sign sign first second below n⟩

/-- What numbers and operators do to the state: all are read, or an operator lacks an operand. -/
theorem run_of_isCalculable {tokens : List Token} (h : ∀ token ∈ tokens, token.IsCalculable)
    (state : Evaluation ν) :
    (∃ last, state.run (.of operandValue apply) tokens = .ok last) ∨
      ∃ defect, state.run (.of operandValue apply) tokens = .error (.malformed defect) := by
  induction tokens generalizing state with
  | nil => exact Or.inl ⟨state, rfl⟩
  | cons token rest ih =>
      obtain ⟨hfirst, hrest⟩ := List.forall_mem_cons.mp h
      rcases step_of_isCalculable operandValue apply hfirst state with
        ⟨next, hstep⟩ | ⟨defect, hstep⟩
      · simpa only [run, hstep] using ih hrest next
      · exact Or.inr ⟨defect, by simp only [run, hstep]⟩

end Evaluation

section

variable {ν : Type} {operandValue : Token → ν} {apply : Operator → ν → ν → ν}

/-- A listing has the value of its tree. -/
theorem evaluatePostfix_listing (tree : Tree) :
    evaluatePostfix (.of operandValue apply) tree.listing =
      .ok (tree.value operandValue apply) := by
  have hempty : tree.listing.isEmpty = false := by
    simpa using tree.listing_ne_nil
  have hrun : Evaluation.run (.of operandValue apply) {} tree.listing = _ :=
    Evaluation.run_listing tree [] 0
  simp only [evaluatePostfix, hempty, Bool.false_eq_true, if_false, hrun]
  rfl

/-- **The values of the machine**: a token list has a value exactly if it is the listing of a tree,
and then it has the value of that tree. -/
theorem evaluatePostfix_eq_ok_iff {tokens : List Token} {v : ν} :
    evaluatePostfix (.of operandValue apply) tokens = .ok v ↔
      ∃ tree : Tree, tree.listing = tokens ∧ tree.value operandValue apply = v := by
  constructor
  · intro h
    simp only [evaluatePostfix] at h
    split at h
    · simp at h
    cases hrun : Evaluation.run (.of operandValue apply) {} tokens with
    | error e => simp [hrun] at h
    | ok last =>
        simp only [hrun, Evaluation.finish] at h
        have hempty : Evaluation.run (.of operandValue apply)
            ⟨([] : List Tree).map (Tree.value operandValue apply), 0⟩ tokens = .ok last := hrun
        obtain ⟨forest, hvalues, hlisting⟩ := Evaluation.exists_forest hempty
        rw [hvalues] at h
        rcases forest with - | ⟨tree, - | ⟨second, rest⟩⟩
        · simp at h
        · refine ⟨tree, by simpa [Evaluation.forestListing] using hlisting, by simpa using h⟩
        · simp at h
  · rintro ⟨tree, rfl, rfl⟩
    exact evaluatePostfix_listing tree

/-- Numbers and operators, at least one, have a value or are refused for their arrangement. -/
theorem evaluatePostfix_of_isCalculable {tokens : List Token}
    (h : ∀ token ∈ tokens, token.IsCalculable) (hne : tokens ≠ []) :
    (∃ v, evaluatePostfix (.of operandValue apply) tokens = .ok v) ∨
      ∃ defect, evaluatePostfix (.of operandValue apply) tokens = .error (.malformed defect) := by
  have hempty : tokens.isEmpty = false := by
    simpa using hne
  simp only [evaluatePostfix, hempty, Bool.false_eq_true, if_false]
  rcases Evaluation.run_of_isCalculable operandValue apply h {} with ⟨last, hrun⟩ | ⟨defect, hrun⟩
  · simp only [hrun, Evaluation.finish]
    split
    · exact Or.inl ⟨_, rfl⟩
    · exact Or.inr ⟨_, rfl⟩
  · exact Or.inr ⟨defect, by simp only [hrun]⟩

end

end Calculator
