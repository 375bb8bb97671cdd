import Calculator.Stack
import Calculator.Postfix.Conversion
import Calculator.Postfix.Evaluation
import Mathlib.Data.List.TakeDrop

/-!
# Stacks that are not asked in vain

Conversion and evaluation once more, as machines that push, look and pop one element at a time on a
`Stack`. Such a stack refuses to give or to show a top that it has not got, so these machines may
halt for two reasons: the tokens are refused, or the stack is. They are proved to do what
conversion and evaluation do, on every token list; hence the stack is never asked in vain.

## Main definitions

* `Halt`: why a machine on a stack halts.
* `convertOnStack`, `evaluateOnStack`: the two machines.

## Main results

* `convertOnStack_eq`, `evaluateOnStack_eq`: **the machines halt for the tokens only**, and agree
  with conversion and evaluation.
-/

namespace Calculator

/-- Why a machine that works on a stack halts. -/
inductive Halt (ε : Type) where
  /-- The tokens are refused. -/
  | refused (error : ε)
  /-- The stack has not got what it was asked for. -/
  | underflow (request : Stack.Underflow)

/-- Taking the top off leaves fewer elements. -/
theorem Stack.size_lt_of_pop {α : Type} {stack below : Stack α} {top : α}
    (h : stack.pop = .ok (top, below)) : below.size < stack.size := by
  obtain ⟨elements⟩ := stack
  cases elements with
  | nil => simp [Stack.pop] at h
  | cons value rest =>
      simp only [Stack.pop, Except.ok.injEq, Prod.mk.injEq] at h
      obtain ⟨rfl, rfl⟩ := h
      simp [Stack.size]

/-! ### Evaluation -/

namespace Evaluation

variable {ν : Type}

/-- What one token does to a stack of values. -/
def stepOn (arithmetic : Arithmetic ν) (stack : Stack ν) (position : Nat) (token : Token) :
    Except (Halt ExpressionError) (Stack ν) :=
  match token.kind with
  | .number => .ok (stack.push (arithmetic.operand token))
  | .operator =>
    if stack.size < 2 then
      .error (.refused (.malformed (.missingOperand token.text position)))
    else do
      let (second, rest) ← stack.pop.mapError .underflow
      let (first, below) ← rest.pop.mapError .underflow
      match arithmetic.compute? token.text first second with
      | some value => .ok (below.push value)
      | none => .error (.refused (.invalidToken token.text none))
  | _ => .error (.refused (.invalidToken token.text (some position)))

/-- What a token list does to a stack of values; `position` is the index of the first token. -/
def runOn (arithmetic : Arithmetic ν) (stack : Stack ν) (position : Nat) :
    List Token → Except (Halt ExpressionError) (Stack ν)
  | [] => .ok stack
  | token :: rest => do
    let next ← stepOn arithmetic stack position token
    runOn arithmetic next (position + 1) rest

/-- The one value that is left on the stack at the end. -/
def finishOn (stack : Stack ν) : Except (Halt ExpressionError) ν :=
  if stack.size ≠ 1 then .error (.refused (.malformed (.leftover stack.size)))
  else (stack.pop.mapError .underflow).map (·.1)

/-- A token that is read is counted. -/
theorem position_of_step {arithmetic : Arithmetic ν} {state next : Evaluation ν} {token : Token}
    (h : state.step arithmetic token = .ok next) : next.position = state.position + 1 := by
  rw [step] at h
  split at h
  · rw [← Except.ok.inj h]
  · split at h
    · split at h
      · rw [← Except.ok.inj h]
      · simp at h
    · simp at h
  · simp at h

/-- One token does the same on a stack. -/
private theorem stepOn_eq (arithmetic : Arithmetic ν) (state : Evaluation ν) (token : Token) :
    stepOn arithmetic ⟨state.values⟩ state.position token =
      ((state.step arithmetic token).map fun next => ⟨next.values⟩).mapError .refused := by
  obtain ⟨values, position⟩ := state
  cases hkind : token.kind with
  | number => simp only [stepOn, step, hkind]; rfl
  | leftParen => simp only [stepOn, step, hkind]; rfl
  | rightParen => simp only [stepOn, step, hkind]; rfl
  | operator =>
      -- with two values on the stack both requests are met, and with fewer none is made
      rcases values with - | ⟨second, - | ⟨first, below⟩⟩
      · simp only [stepOn, step, hkind]; rfl
      · simp only [stepOn, step, hkind]; rfl
      · have hsize : ¬ (Stack.mk (second :: first :: below)).size < 2 := by simp [Stack.size]
        simp only [stepOn, step, hkind, if_neg hsize, Stack.pop]
        simp only [Except.mapError, bind, Except.bind]
        cases arithmetic.compute? token.text first second <;> rfl

/-- A token list does the same on a stack. -/
private theorem runOn_eq (arithmetic : Arithmetic ν) (state : Evaluation ν) (tokens : List Token) :
    runOn arithmetic ⟨state.values⟩ state.position tokens =
      ((state.run arithmetic tokens).map fun last => ⟨last.values⟩).mapError .refused := by
  induction tokens generalizing state with
  | nil => rfl
  | cons token rest ih =>
      simp only [runOn, run, stepOn_eq]
      cases hstep : state.step arithmetic token with
      | error error => rfl
      | ok next =>
          rw [← position_of_step hstep]
          exact ih next

end Evaluation

/-- The value of tokens in postfix order, computed on a stack. -/
def evaluateOnStack {ν : Type} (arithmetic : Arithmetic ν) (tokens : List Token) :
    Except (Halt ExpressionError) ν :=
  if tokens.isEmpty then .error (.refused .empty)
  else do
    let stack ← Evaluation.runOn arithmetic {} 0 tokens
    Evaluation.finishOn stack

/-- **An evaluation halts for the tokens only**: on a stack it does the same. -/
theorem evaluateOnStack_eq {ν : Type} (arithmetic : Arithmetic ν) (tokens : List Token) :
    evaluateOnStack arithmetic tokens = (evaluatePostfix arithmetic tokens).mapError .refused := by
  rw [evaluateOnStack, evaluatePostfix]
  split
  · rfl
  · have hrun : Evaluation.runOn arithmetic {} 0 tokens = _ :=
      Evaluation.runOn_eq arithmetic {} tokens
    rw [hrun]
    cases Evaluation.run arithmetic {} tokens with
    | error error => rfl
    | ok last =>
        obtain ⟨values, position⟩ := last
        rcases values with - | ⟨value, - | ⟨second, rest⟩⟩ <;> rfl

/-! ### Conversion -/

namespace Conversion

/-- Let operators leave the top of the stack as long as they yield to `token`; `emitted` holds what
has left, last first. -/
def yieldOn (token : Token) (emitted : List Token) (stack : Stack Token) :
    Except (Halt Defect) (List Token × Stack Token) :=
  if stack.isEmpty then .ok (emitted, stack)
  else
    match stack.peek with
    | .error request => .error (.underflow request)
    | .ok top =>
      if yieldsTo token top then
        match _h : stack.pop with
        | .error request => .error (.underflow request)
        | .ok (leaving, below) => yieldOn token (leaving :: emitted) below
      else .ok (emitted, stack)
termination_by stack.size
decreasing_by exact Stack.size_lt_of_pop _h

/-- Let tokens leave the stack up to the innermost opening parenthesis, which is dropped. -/
def closeOn (position : Nat) (emitted : List Token) (stack : Stack Token) :
    Except (Halt Defect) (List Token × Stack Token) :=
  if stack.isEmpty then .error (.refused (.unmatched position))
  else
    match _h : stack.pop with
    | .error request => .error (.underflow request)
    | .ok (top, below) =>
      if top.isLeftParen then .ok (emitted, below) else closeOn position (top :: emitted) below
termination_by stack.size
decreasing_by exact Stack.size_lt_of_pop _h

/-- Let all tokens leave the stack. -/
def emptyOn (emitted : List Token) (stack : Stack Token) : Except (Halt Defect) (List Token) :=
  if stack.isEmpty then .ok emitted
  else
    match _h : stack.pop with
    | .error request => .error (.underflow request)
    | .ok (top, below) =>
      if top.isLeftParen then .error (.refused (.unclosed emitted.length))
      else emptyOn (top :: emitted) below
termination_by stack.size
decreasing_by exact Stack.size_lt_of_pop _h

/-- What one token does, with the waiting tokens on a stack. -/
def stepOn (state : Conversion) (token : Token) : Except (Halt Defect) Conversion :=
  let stack : Stack Token := ⟨state.pending⟩
  match token.kind with
  | .number => .ok ((state.emit token).advance token)
  | .leftParen =>
    .ok (({ state with pending := (stack.push token).elements } : Conversion).advance token)
  | .rightParen =>
    if state.previous.any Token.isLeftParen then
      .error (.refused (.emptyGroup state.position))
    else do
      let (emitted, below) ← closeOn state.position state.emitted stack
      .ok (({ state with emitted, pending := below.elements } : Conversion).advance token)
  | .operator => do
    let (emitted, below) ← yieldOn token state.emitted stack
    .ok (({ state with emitted, pending := (below.push token).elements } : Conversion).advance
      token)

/-- What a token list does, with the waiting tokens on a stack. -/
def runOn (state : Conversion) : List Token → Except (Halt Defect) Conversion
  | [] => .ok state
  | token :: rest => do
    let next ← state.stepOn token
    next.runOn rest

/-- The tokens on top that yield leave one by one. -/
private theorem yieldOn_eq (token : Token) (emitted pending : List Token) :
    yieldOn token emitted ⟨pending⟩ =
      .ok ((pending.takeWhile (yieldsTo token)).reverse ++ emitted,
        ⟨pending.dropWhile (yieldsTo token)⟩) := by
  induction pending generalizing emitted with
  | nil => rw [yieldOn]; rfl
  | cons top below ih =>
      rw [yieldOn]
      cases hyields : yieldsTo token top with
      | true => simpa [Stack.isEmpty, Stack.peek, Stack.pop, hyields] using ih (top :: emitted)
      | false => simp [Stack.isEmpty, Stack.peek, hyields]

/-- The tokens above the innermost opening parenthesis leave one by one. -/
private theorem closeOn_eq (position : Nat) (emitted pending : List Token) :
    closeOn position emitted ⟨pending⟩ =
      match pending.dropWhile (!·.isLeftParen) with
      | [] => .error (.refused (.unmatched position))
      | _ :: staying =>
        .ok ((pending.takeWhile (!·.isLeftParen)).reverse ++ emitted, ⟨staying⟩) := by
  induction pending generalizing emitted with
  | nil => rw [closeOn]; rfl
  | cons top below ih =>
      rw [closeOn]
      cases hparen : top.isLeftParen with
      | true => simp [Stack.isEmpty, Stack.pop, hparen]
      | false => simpa [Stack.isEmpty, Stack.pop, hparen] using ih (top :: emitted)

/-- At the end the tokens leave one by one, up to an opening parenthesis. -/
private theorem emptyOn_eq (emitted pending : List Token) :
    emptyOn emitted ⟨pending⟩ =
      if (pending.dropWhile (!·.isLeftParen)).isEmpty then
        .ok ((pending.takeWhile (!·.isLeftParen)).reverse ++ emitted)
      else
        .error (.refused
          (.unclosed ((pending.takeWhile (!·.isLeftParen)).reverse ++ emitted).length)) := by
  induction pending generalizing emitted with
  | nil => rw [emptyOn]; rfl
  | cons top below ih =>
      rw [emptyOn]
      cases hparen : top.isLeftParen with
      | true => simp [Stack.isEmpty, Stack.pop, hparen]
      | false => simpa [Stack.isEmpty, Stack.pop, hparen] using ih (top :: emitted)

/-- One token does the same on a stack. -/
private theorem stepOn_eq (state : Conversion) (token : Token) :
    state.stepOn token = (state.step token).mapError .refused := by
  cases hkind : token.kind with
  | number => simp only [stepOn, step, hkind]; rfl
  | leftParen => simp only [stepOn, step, hkind]; rfl
  | operator =>
      simp only [stepOn, step, hkind, yieldOn_eq, stack, List.span_eq_takeWhile_dropWhile]
      rfl
  | rightParen =>
      simp only [stepOn, step, hkind, closeGroup, closeOn_eq, List.span_eq_takeWhile_dropWhile]
      cases state.previous.any Token.isLeftParen with
      | true => rfl
      | false => cases state.pending.dropWhile (!·.isLeftParen) <;> rfl

/-- A token list does the same on a stack. -/
private theorem runOn_eq (state : Conversion) (tokens : List Token) :
    state.runOn tokens = (state.run tokens).mapError .refused := by
  induction tokens generalizing state with
  | nil => rfl
  | cons token rest ih =>
      simp only [runOn, run, stepOn_eq]
      cases state.step token with
      | error defect => rfl
      | ok next => exact ih next

end Conversion

/-- The tokens in postfix order, converted with a stack. -/
def convertOnStack (tokens : List Token) : Except (Halt Defect) (List Token) := do
  let state ← Conversion.runOn {} tokens
  return (← Conversion.emptyOn state.emitted ⟨state.pending⟩).reverse

/-- **A conversion halts for the tokens only**: on a stack it does the same. -/
theorem convertOnStack_eq (tokens : List Token) :
    convertOnStack tokens = (toPostfix tokens).mapError .refused := by
  rw [convertOnStack, toPostfix, Conversion.runOn_eq]
  cases Conversion.run {} tokens with
  | error defect => rfl
  | ok last =>
      simp only [Except.mapError, bind, Except.bind, Conversion.emptyOn_eq, Conversion.finish,
        List.span_eq_takeWhile_dropWhile]
      cases (last.pending.dropWhile (!·.isLeftParen)).isEmpty <;> rfl

end Calculator
