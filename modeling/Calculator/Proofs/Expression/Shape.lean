import Calculator.Proofs.Expression.Exchange
import Calculator.Proofs.Postfix.Tree
import Mathlib.Data.List.Forall2

/-!
# Expressions of one shape

Two token lists have one shape if they agree position by position in kind and in operators; only
their numbers may differ, in text and in value. Neither the conversion nor the evaluation looks at
more than the shape: on two lists of one shape both go on in lockstep, token by token, and end
alike. A value is therefore no reason for a failure, be it infinite, zero or no number at all, and
no failure tells about a value.

## Main definitions

* `Lockstep`: two computations that give related results or fail for one reason.
* `Token.Alike`: tokens of one shape.
* `Conversion.Alike`, `Evaluation.Alike`: states that differ in the numbers only.

## Main results

* `Conversion.lockstep_step`, `Conversion.lockstep_run`, `lockstep_toPostfix`: conversion by shape.
* `Evaluation.lockstep_step`, `Evaluation.lockstep_run`, `lockstep_evaluatePostfix`: evaluation by
  shape, for any two arithmetics.
* `lockstep_convert_computeItems`: **numbers decide nothing**, neither in the conversion nor in the
  evaluation of what is converted.
-/

namespace Calculator

/-- Two computations in lockstep: they give related results, or they fail for one reason. -/
inductive Lockstep {ε α β : Type} (related : α → β → Prop) : Except ε α → Except ε β → Prop
  | ok {a : α} {b : β} (h : related a b) : Lockstep related (.ok a) (.ok b)
  | error (e : ε) : Lockstep related (.error e) (.error e)

namespace Lockstep

variable {ε ε' α β : Type} {related : α → β → Prop} {a : Except ε α} {b : Except ε β}

/-- Computations in lockstep stay so if their failures are renamed. -/
theorem mapError (h : Lockstep related a b) (f : ε → ε') :
    Lockstep related (a.mapError f) (b.mapError f) := by
  cases h with
  | ok h => exact .ok h
  | error e => exact .error (f e)

end Lockstep

/-! ### Tokens of one shape -/

/-- Tokens of one shape: of one kind, and operators with one sign. -/
structure Token.Alike (a b : Token) : Prop where
  /-- The tokens are of one kind. -/
  kind_eq : a.kind = b.kind
  /-- Operators are written with one sign. -/
  exists_symbol : a.kind = .operator → ∃ o : Operator, a.text = o.symbol ∧ b.text = o.symbol

namespace Token.Alike

variable {a b : Token}

/-- Tokens of one shape are operators both or neither. -/
theorem isOperator_eq (h : Alike a b) : a.isOperator = b.isOperator := by
  simp only [isOperator, h.kind_eq]

/-- Tokens of one shape open groups both or neither. -/
theorem isLeftParen_eq (h : Alike a b) : a.isLeftParen = b.isLeftParen := by
  simp only [isLeftParen, h.kind_eq]

/-- Tokens of one shape bind equally tightly. -/
theorem precedence_eq (h : Alike a b) : a.precedence = b.precedence := by
  by_cases hkind : a.kind = .operator
  · obtain ⟨o, ha, hb⟩ := h.exists_symbol hkind
    simp only [precedence, h.isOperator_eq, ha, hb]
  · have hb : b.kind ≠ .operator := h.kind_eq ▸ hkind
    simp [precedence, isOperator, hkind, hb]

end Token.Alike

/-! ### Conversion -/

/-- Cutting lists where a property fails first keeps them related, if it holds of related elements
both or neither. -/
private theorem forall₂_span {α β : Type} {R : α → β → Prop} {p : α → Bool} {q : β → Bool}
    (hpq : ∀ a b, R a b → p a = q b) {l : List α} {m : List β} (h : List.Forall₂ R l m) :
    List.Forall₂ R (l.takeWhile p) (m.takeWhile q) ∧
      List.Forall₂ R (l.dropWhile p) (m.dropWhile q) := by
  induction h with
  | nil => exact ⟨.nil, .nil⟩
  | @cons a b l m hab hlm ih =>
      obtain ⟨htake, hdrop⟩ := ih
      cases hp : p a with
      | true =>
          have hq : q b = true := hpq a b hab ▸ hp
          simp only [List.takeWhile_cons, List.dropWhile_cons, hp, hq, if_true]
          exact ⟨.cons hab htake, hdrop⟩
      | false =>
          have hq : q b = false := hpq a b hab ▸ hp
          simp only [List.takeWhile_cons, List.dropWhile_cons, hp, hq, Bool.false_eq_true, if_false]
          exact ⟨.nil, .cons hab hlm⟩

namespace Conversion

/-- States of a conversion that differ in the numbers only. -/
structure Alike (s t : Conversion) : Prop where
  /-- The emitted tokens are of one shape. -/
  emitted : List.Forall₂ Token.Alike s.emitted t.emitted
  /-- The waiting tokens are of one shape. -/
  pending : List.Forall₂ Token.Alike s.pending t.pending
  /-- The tokens right before are of one shape. -/
  previous : Option.Rel Token.Alike s.previous t.previous
  /-- Equally many tokens were read. -/
  position : s.position = t.position

variable {s t : Conversion} {a b : Token}

/-- Remembering tokens of one shape keeps states alike. -/
theorem Alike.advance (h : Alike s t) (hab : Token.Alike a b) :
    Alike (s.advance a) (t.advance b) :=
  ⟨h.emitted, h.pending, .some hab, congrArg (· + 1) h.position⟩

/-- Letting tokens of one shape go keeps states alike. -/
theorem Alike.release {leaving leaving' staying staying' : List Token} (h : Alike s t)
    (hleaving : List.Forall₂ Token.Alike leaving leaving')
    (hstaying : List.Forall₂ Token.Alike staying staying') :
    Alike (s.release leaving staying) (t.release leaving' staying') :=
  ⟨List.rel_append (List.forall₂_reverse_iff.mpr hleaving) h.emitted, hstaying, h.previous,
    h.position⟩

/-- Stacking operators of one sign keeps states alike. -/
theorem Alike.stack (h : Alike s t) (hab : Token.Alike a b) : Alike (s.stack a) (t.stack b) := by
  have hyields (x y : Token) (hxy : Token.Alike x y) : yieldsTo a x = yieldsTo b y := by
    simp only [yieldsTo, hxy.isOperator_eq, hxy.precedence_eq, hab.precedence_eq]
  obtain ⟨hleaving, hstaying⟩ := forall₂_span hyields h.pending
  simp only [Conversion.stack, List.span_eq_takeWhile_dropWhile]
  exact h.release hleaving (.cons hab hstaying)

/-- The tokens right before open groups both or neither. -/
theorem Alike.previous_any_eq (h : Alike s t) :
    s.previous.any Token.isLeftParen = t.previous.any Token.isLeftParen := by
  have hprevious := h.previous
  generalize s.previous = p, t.previous = q at hprevious ⊢
  cases hprevious with
  | some hab => exact hab.isLeftParen_eq
  | none => rfl

/-- Closing a group in states that are alike: both are closed, or neither for one reason. -/
theorem Alike.lockstep_closeGroup (h : Alike s t) : Lockstep Alike s.closeGroup t.closeGroup := by
  have hopens (x y : Token) (hxy : Token.Alike x y) : (!x.isLeftParen) = !y.isLeftParen := by
    rw [hxy.isLeftParen_eq]
  obtain ⟨hleaving, hstaying⟩ := forall₂_span hopens h.pending
  simp only [closeGroup, List.span_eq_takeWhile_dropWhile, h.previous_any_eq, h.position]
  cases t.previous.any Token.isLeftParen with
  | true => exact .error _
  | false =>
      revert hstaying
      generalize s.pending.dropWhile (!·.isLeftParen) = left,
        t.pending.dropWhile (!·.isLeftParen) = right
      intro hstaying
      cases hstaying with
      | nil => exact .error _
      | cons _ hbelow =>
        have hclosed := h.release hleaving hbelow
        simp only [Conversion.release, h.position] at hclosed
        exact .ok hclosed

/-- One token of one shape on each side: the states stay alike, or both conversions fail for one
reason. -/
theorem lockstep_step (h : Alike s t) (hab : Token.Alike a b) :
    Lockstep Alike (s.step a) (t.step b) := by
  cases hkind : b.kind with
  | number =>
      simp only [step, hab.kind_eq, hkind]
      exact .ok (Alike.advance ⟨.cons hab h.emitted, h.pending, h.previous, h.position⟩ hab)
  | leftParen =>
      simp only [step, hab.kind_eq, hkind]
      exact .ok (Alike.advance ⟨h.emitted, .cons hab h.pending, h.previous, h.position⟩ hab)
  | operator =>
      simp only [step, hab.kind_eq, hkind]
      exact .ok ((h.stack hab).advance hab)
  | rightParen =>
      simp only [step, hab.kind_eq, hkind]
      have hclose := h.lockstep_closeGroup
      generalize s.closeGroup = left, t.closeGroup = right at hclose
      cases hclose with
      | ok hclosed => exact .ok (hclosed.advance hab)
      | error defect => exact .error defect

/-- Token lists of one shape: the states stay alike, or both conversions fail for one reason. -/
theorem lockstep_run {first second : List Token} (htokens : List.Forall₂ Token.Alike first second)
    (h : Alike s t) : Lockstep Alike (s.run first) (t.run second) := by
  induction htokens generalizing s t with
  | nil => exact .ok h
  | @cons a b first second hab _ ih =>
      have hstep := lockstep_step h hab
      simp only [run]
      generalize s.step a = left, t.step b = right at hstep
      cases hstep with
      | ok hnext => exact ih hnext
      | error defect => exact .error defect

/-- The end of the lists in states that are alike. -/
theorem Alike.lockstep_finish (h : Alike s t) :
    Lockstep (List.Forall₂ Token.Alike) s.finish t.finish := by
  have hopens (x y : Token) (hxy : Token.Alike x y) : (!x.isLeftParen) = !y.isLeftParen := by
    rw [hxy.isLeftParen_eq]
  obtain ⟨hleaving, hstaying⟩ := forall₂_span hopens h.pending
  have hemitted := List.rel_append (List.forall₂_reverse_iff.mpr hleaving) h.emitted
  simp only [finish, List.span_eq_takeWhile_dropWhile]
  revert hstaying
  generalize s.pending.dropWhile (!·.isLeftParen) = left,
    t.pending.dropWhile (!·.isLeftParen) = right
  intro hstaying
  cases hstaying with
  | nil => exact .ok (List.forall₂_reverse_iff.mpr hemitted)
  | cons _ _ =>
      simp only [List.isEmpty_cons, Bool.false_eq_true, if_false, hemitted.length_eq]
      exact .error _

end Conversion

/-- Token lists of one shape are converted to lists of one shape, or refused for one defect. -/
theorem lockstep_toPostfix {first second : List Token}
    (h : List.Forall₂ Token.Alike first second) :
    Lockstep (List.Forall₂ Token.Alike) (toPostfix first) (toPostfix second) := by
  have hstart : Conversion.Alike {} {} := ⟨.nil, .nil, .none, rfl⟩
  have hrun := Conversion.lockstep_run h hstart
  simp only [toPostfix]
  generalize Conversion.run {} first = left, Conversion.run {} second = right at hrun
  cases hrun with
  | ok hlast => exact hlast.lockstep_finish
  | error defect => exact .error defect

/-! ### Evaluation -/

namespace Evaluation

variable {ν μ : Type}

/-- States of two evaluations that differ in the values only. -/
structure Alike (s : Evaluation ν) (t : Evaluation μ) : Prop where
  /-- Equally many values are stacked. -/
  length_eq : s.values.length = t.values.length
  /-- Equally many tokens were read. -/
  position : s.position = t.position

variable {s : Evaluation ν} {t : Evaluation μ} {a b : Token}

section

variable (operandValue : Token → ν) (apply : Operator → ν → ν → ν)
  (operandValue' : Token → μ) (apply' : Operator → μ → μ → μ)

/-- An operator takes two values from each stack, or one of them is missing on both sides. -/
private theorem lockstep_step_sign {o : Operator} (h : Alike s t) (ha : a.kind = .operator)
    (hb : b.kind = .operator) (hatext : a.text = o.symbol) (hbtext : b.text = o.symbol) :
    Lockstep Alike (s.step (.of operandValue apply) a) (t.step (.of operandValue' apply') b) := by
  obtain ⟨values, n⟩ := s
  obtain ⟨values', n'⟩ := t
  obtain ⟨hlength, rfl⟩ : values.length = values'.length ∧ n = n' := ⟨h.length_eq, h.position⟩
  let left : Sign := ⟨a, o, ha, hatext⟩
  let right : Sign := ⟨b, o, hb, hbtext⟩
  rcases values with - | ⟨second, - | ⟨first, below⟩⟩ <;>
    rcases values' with - | ⟨second', - | ⟨first', below'⟩⟩
  case cons.cons.cons.cons =>
    have hleft : step (.of operandValue apply) ⟨second :: first :: below, n⟩ a = .ok _ :=
      step_sign left first second below n
    have hright : step (.of operandValue' apply') ⟨second' :: first' :: below', n⟩ b = .ok _ :=
      step_sign right first' second' below' n
    rw [hleft, hright]
    exact .ok ⟨by simpa using hlength, rfl⟩
  case nil.nil | cons.nil.cons.nil =>
    simp only [step, ha, hb, hatext, hbtext]
    exact .error _
  all_goals simp at hlength

/-- One token of one shape on each side: the states stay alike, or both evaluations fail for one
reason. -/
theorem lockstep_step (h : Alike s t) (hab : Token.Alike a b) (hparen : b.isParen = false) :
    Lockstep Alike (s.step (.of operandValue apply) a) (t.step (.of operandValue' apply') b) := by
  cases hkind : b.kind with
  | number =>
      simp only [step, hab.kind_eq, hkind]
      exact .ok ⟨congrArg (· + 1) h.length_eq, congrArg (· + 1) h.position⟩
  | operator =>
      have ha : a.kind = .operator := hab.kind_eq.trans hkind
      obtain ⟨o, hatext, hbtext⟩ := hab.exists_symbol ha
      exact lockstep_step_sign operandValue apply operandValue' apply' h ha hkind hatext hbtext
  | leftParen => simp [Token.isParen, hkind] at hparen
  | rightParen => simp [Token.isParen, hkind] at hparen

/-- Token lists of one shape: the states stay alike, or both evaluations fail for one reason. -/
theorem lockstep_run {first second : List Token} (htokens : List.Forall₂ Token.Alike first second)
    (hparen : ∀ token ∈ second, token.isParen = false) (h : Alike s t) :
    Lockstep Alike (s.run (.of operandValue apply) first)
      (t.run (.of operandValue' apply') second) := by
  induction htokens generalizing s t with
  | nil => exact .ok h
  | @cons a b first second hab _ ih =>
      obtain ⟨hb, hsecond⟩ := List.forall_mem_cons.mp hparen
      have hstep := lockstep_step operandValue apply operandValue' apply' h hab hb
      simp only [run]
      generalize s.step (.of operandValue apply) a = left,
        t.step (.of operandValue' apply') b = right at hstep
      cases hstep with
      | ok hnext => exact ih hsecond hnext
      | error e => exact .error e

end

/-- The end of the lists in states that are alike. -/
theorem Alike.lockstep_finish (h : Alike s t) : Lockstep (fun _ _ => True) s.finish t.finish := by
  obtain ⟨values, n⟩ := s
  obtain ⟨values', n'⟩ := t
  have hlength : values.length = values'.length := h.length_eq
  rcases values with - | ⟨value, - | ⟨second, rest⟩⟩ <;>
    rcases values' with - | ⟨value', - | ⟨second', rest'⟩⟩
  case nil.nil => exact .error _
  case cons.nil.cons.nil => exact .ok trivial
  case cons.cons.cons.cons =>
    simp only [finish, hlength]
    exact .error _
  all_goals simp at hlength

end Evaluation

/-- Lists of one shape without parentheses both have a value, or both are refused for one reason,
whatever the values of numbers and the meanings of operators are. -/
theorem lockstep_evaluatePostfix {ν μ : Type} (operandValue : Token → ν)
    (apply : Operator → ν → ν → ν) (operandValue' : Token → μ) (apply' : Operator → μ → μ → μ)
    {first second : List Token} (h : List.Forall₂ Token.Alike first second)
    (hparen : ∀ token ∈ second, token.isParen = false) :
    Lockstep (fun _ _ => True) (evaluatePostfix (.of operandValue apply) first)
      (evaluatePostfix (.of operandValue' apply') second) := by
  have hempty : first.isEmpty = second.isEmpty := by
    cases h <;> rfl
  have hstart : Evaluation.Alike ({} : Evaluation ν) ({} : Evaluation μ) := ⟨rfl, rfl⟩
  have hrun := Evaluation.lockstep_run operandValue apply operandValue' apply' h hparen hstart
  simp only [evaluatePostfix, hempty]
  cases second.isEmpty with
  | true => exact .error _
  | false =>
      generalize Evaluation.run (.of operandValue apply) {} first = left,
        Evaluation.run (.of operandValue' apply') {} second = right at hrun
      cases hrun with
      | ok hlast => exact hlast.lockstep_finish
      | error e => exact .error e

/-! ### Both, one after the other -/

/-- What is converted holds no parentheses. -/
theorem isParen_of_toPostfix {tokens listing : List Token} (h : toPostfix tokens = .ok listing) :
    ∀ token ∈ listing, token.isParen = false := by
  intro token ht
  rw [(toPostfix_perm h).mem_iff, List.mem_filter] at ht
  simpa using ht.2

/-- **Numbers decide nothing.** Two token lists of one shape are converted to lists of one shape, or
both are refused for one reason; and the converted lists both have a value, or both are refused for
one reason. -/
theorem lockstep_convert_computeItems {first second : List Token}
    (h : List.Forall₂ Token.Alike first second) :
    Lockstep
      (fun listing listing' => List.Forall₂ Token.Alike listing listing' ∧
        Lockstep (fun _ _ => True) (computeItems (listing.map .token)).value
          (computeItems (listing'.map .token)).value)
      (convert first).value (convert second).value := by
  have hconvert := lockstep_toPostfix h
  simp only [convert_value]
  generalize toPostfix first = left, hright : toPostfix second = right at hconvert
  cases hconvert with
  | error defect => exact .error _
  | ok hlisting =>
      refine .ok ⟨hlisting, ?_⟩
      simp only [computeItems_tokens_value, valueOf, Arithmetic.float_eq_of]
      exact (lockstep_evaluatePostfix _ _ _ _ hlisting (isParen_of_toPostfix hright)).mapError _

/-- A division by zero in a group, and one of no number by infinity. -/
theorem lockstep_convert_computeItems_division :
    let number (text : String) (value : Float) : Token := { kind := .number, text, value }
    let divided (a b : Token) : List Token :=
      [{ kind := .leftParen, text := "(" }, a, { kind := .operator, text := "/" }, b,
        { kind := .rightParen, text := ")" }]
    let first := divided (number "1" 1.0) (number "0" 0.0)
    let second := divided (number "0.0" (0.0 / 0.0)) (number "-.5" (1.0 / 0.0))
    List.Forall₂ Token.Alike first second ∧
      Lockstep
        (fun listing listing' => List.Forall₂ Token.Alike listing listing' ∧
          Lockstep (fun _ _ => True) (computeItems (listing.map .token)).value
            (computeItems (listing'.map .token)).value)
        (convert first).value (convert second).value := by
  intro number divided first second
  have halike : List.Forall₂ Token.Alike first second :=
    .cons ⟨rfl, by simp⟩ <| .cons ⟨rfl, by simp [number]⟩ <|
      .cons ⟨rfl, fun _ => ⟨.divide, rfl, rfl⟩⟩ <| .cons ⟨rfl, by simp [number]⟩ <|
      .cons ⟨rfl, by simp⟩ .nil
  exact ⟨halike, lockstep_convert_computeItems halike⟩

end Calculator
