import Calculator.Proofs.Postfix.Tree
import Calculator.Proofs.Postfix.Yard

/-!
# Operands and operators in turn

The ambiguous grammar of infix expressions, which says what may be written but not how it groups,
and the two ways of telling its token lists apart from others: by a scan that asks for operands and
operators in turn, and by a count. A list of the grammar never has two operands side by side; the
converse holds of lists that have one number more than they have operators.

## Main definitions

* `Infix`: the token lists of the grammar.
* `Phase`, `Phase.after`: whether an operand or an operator comes next.
* `Juxtaposed`: two operands stand side by side.

## Main results

* `Infix.after_eq`: a list of the grammar passes the scan.
* `infix_of_closes`: a list that closes its groups and passes the scan is one of the grammar.
* `after_eq_of_countP`: without juxtaposed operands the numbers outweigh the operators by one at
  most, and only if the scan is passed.
* `infix_iff_not_juxtaposed`: **what is converted to a listing is infix exactly if no two operands
  stand side by side**.
-/

namespace Calculator

/-- The token lists of the grammar: a number, a list in parentheses, or two lists around an
operator. -/
inductive Infix : List Token → Prop
  | number {token : Token} (hkind : token.kind = .number) : Infix [token]
  | group {opening closing : Token} {inner : List Token} (hopening : opening.kind = .leftParen)
      (hclosing : closing.kind = .rightParen) (hinner : Infix inner) :
      Infix (opening :: (inner ++ [closing]))
  | operation {left right : List Token} (sign : Sign) (hleft : Infix left)
      (hright : Infix right) : Infix (left ++ sign.token :: right)

/-- What comes next. -/
inductive Phase where
  /-- An operand is due. -/
  | operand
  /-- An operand is complete. -/
  | operator
  deriving DecidableEq, Repr

namespace Phase

/-- What comes after a token that is in place. -/
def next : Phase → Token.Kind → Option Phase
  | operand, .number => some operator
  | operand, .leftParen => some operand
  | operator, .operator => some operand
  | operator, .rightParen => some operator
  | _, _ => none

/-- What comes after tokens that are all in place. -/
def after (phase : Phase) : List Token → Option Phase
  | [] => some phase
  | token :: rest => (phase.next token.kind).bind (fun p => p.after rest)

/-- Tokens are scanned one list after the other. -/
theorem after_append (phase : Phase) (first second : List Token) :
    phase.after (first ++ second) = (phase.after first).bind (fun p => p.after second) := by
  induction first generalizing phase with
  | nil => rfl
  | cons token rest ih =>
      simp only [List.cons_append, after]
      cases phase.next token.kind with
      | none => rfl
      | some p => exact ih p

end Phase

/-! ### The scan -/

/-- A list of the grammar is an operand. -/
theorem Infix.after_eq {tokens : List Token} (h : Infix tokens) :
    Phase.operand.after tokens = some .operator := by
  induction h with
  | number hkind => simp [Phase.after, Phase.next, hkind]
  | group hopening hclosing _ ih =>
      simp [Phase.after, Phase.next, hopening, hclosing, Phase.after_append, ih]
  | operation sign _ _ ihleft ihright =>
      simp [Phase.after_append, ihleft, Phase.after, Phase.next, sign.kind_eq, ihright]

/-- Closed groups and tokens in turn make an expression, or complete one. Induction on a bound of
the length, since a group is skipped as a whole. -/
private theorem infix_of_closes_aux (n : Nat) :
    ∀ tokens : List Token, tokens.length ≤ n →
      (∀ t ∈ tokens, t.kind = .operator → ∃ sign : Sign, sign.token = t) → Closes 0 tokens →
      (Phase.operand.after tokens = some .operator → Infix tokens) ∧
        ∀ operand, Infix operand → Phase.operator.after tokens = some .operator →
          Infix (operand ++ tokens) := by
  induction n with
  | zero =>
      intro tokens hlength _ _
      obtain rfl : tokens = [] := List.length_eq_zero_iff.mp (by omega)
      exact ⟨fun h => by simp [Phase.after] at h, fun operand h _ => by simpa using h⟩
  | succ n ih =>
      intro tokens hlength hsigns hcloses
      rcases tokens with - | ⟨token, rest⟩
      · exact ⟨fun h => by simp [Phase.after] at h, fun operand h _ => by simpa using h⟩
      obtain ⟨hsign, hrest⟩ := List.forall_mem_cons.mp hsigns
      simp only [List.length_cons] at hlength
      cases hkind : token.kind with
      | number =>
          simp only [Closes, hkind] at hcloses
          refine ⟨fun h => ?_, fun operand _ h => by simp [Phase.after, Phase.next, hkind] at h⟩
          simp only [Phase.after, Phase.next, hkind, Option.bind_some] at h
          exact (ih rest (by omega) hrest hcloses).2 [token] (.number hkind) h
      | operator =>
          simp only [Closes, hkind] at hcloses
          obtain ⟨sign, rfl⟩ := hsign hkind
          refine ⟨fun h => by simp [Phase.after, Phase.next, hkind] at h, ?_⟩
          intro operand hoperand h
          simp only [Phase.after, Phase.next, hkind, Option.bind_some] at h
          exact .operation sign hoperand ((ih rest (by omega) hrest hcloses).1 h)
      | rightParen => simp [Closes, hkind] at hcloses
      | leftParen =>
          simp only [Closes, hkind] at hcloses
          obtain ⟨inner, closing, outer, rfl, hclosing, hinner, houter⟩ :=
            Closes.exists_split 0 0 hcloses
          simp only [List.length_append, List.length_cons] at hlength
          refine ⟨fun h => ?_, fun operand _ h => by simp [Phase.after, Phase.next, hkind] at h⟩
          simp only [Phase.after, Phase.next, hkind, Option.bind_some, Phase.after_append] at h
          obtain ⟨p, hp, h⟩ := Option.bind_eq_some_iff.mp h
          cases p with
          | operand => simp [hclosing] at h
          | operator =>
              simp only [hclosing, Option.bind_some] at h
              have hgroup : Infix (token :: (inner ++ [closing])) :=
                .group hkind hclosing ((ih inner (by omega)
                  (fun t ht => hrest t (by simp [ht])) hinner).1 hp)
              have hwhole := (ih outer (by omega)
                (fun t ht => hrest t (by simp [ht])) houter).2 _ hgroup h
              simpa using hwhole

/-- Closed groups and tokens in turn make an expression. -/
theorem infix_of_closes {tokens : List Token}
    (hsigns : ∀ t ∈ tokens, t.kind = .operator → ∃ sign : Sign, sign.token = t)
    (hcloses : Closes 0 tokens) (hafter : Phase.operand.after tokens = some .operator) :
    Infix tokens :=
  (infix_of_closes_aux tokens.length tokens le_rfl hsigns hcloses).1 hafter

/-! ### Juxtaposed operands -/

/-- An operand may end with the token. -/
def Token.EndsOperand (token : Token) : Prop := token.kind = .number ∨ token.kind = .rightParen

/-- An operand may start with the token. -/
def Token.StartsOperand (token : Token) : Prop := token.kind = .number ∨ token.kind = .leftParen

/-- Two operands stand side by side: a number or a closing parenthesis comes right before a number
or an opening one. -/
def Juxtaposed (tokens : List Token) : Prop :=
  ∃ before first second after, tokens = before ++ first :: second :: after ∧
    first.EndsOperand ∧ second.StartsOperand

/-- Operands that are juxtaposed stay so behind a further token. -/
theorem Juxtaposed.cons {tokens : List Token} (token : Token) (h : Juxtaposed tokens) :
    Juxtaposed (token :: tokens) := by
  obtain ⟨before, first, second, after, rfl, hfirst, hsecond⟩ := h
  exact ⟨token :: before, first, second, after, rfl, hfirst, hsecond⟩

/-- The scan stops at juxtaposed operands. -/
theorem not_juxtaposed_of_after {phase last : Phase} {tokens : List Token}
    (h : phase.after tokens = some last) : ¬ Juxtaposed tokens := by
  rintro ⟨before, first, second, after, rfl, hfirst, hsecond⟩
  rw [Phase.after_append] at h
  obtain ⟨p, -, h⟩ := Option.bind_eq_some_iff.mp h
  obtain ⟨q, hq, h⟩ := Option.bind_eq_some_iff.mp h
  obtain ⟨r, hr, -⟩ := Option.bind_eq_some_iff.mp h
  have hoperator : q = .operator := by
    rcases hfirst with hkind | hkind <;> cases p <;> simp_all [Phase.next]
  rcases hsecond with hkind | hkind <;> simp [hoperator, Phase.next, hkind] at hr

/-- The counts after a further token. -/
private theorem counts_cons (token : Token) (tokens : List Token) :
    numbers (token :: tokens) = numbers tokens + (if token.kind = .number then 1 else 0) ∧
      operators (token :: tokens) =
        operators tokens + (if token.kind = .operator then 1 else 0) := by
  simp [numbers, operators, List.countP_cons]

/-- Without juxtaposed operands every token that is out of place costs a number: where an operand
is due the numbers outweigh the operators by one at most, and behind an operand not at all, and
they do so only if all tokens are in place. -/
private theorem counts_of_not_juxtaposed (tokens : List Token) :
    (¬ Juxtaposed tokens → numbers tokens ≤ operators tokens + 1 ∧
      (numbers tokens = operators tokens + 1 → Phase.operand.after tokens = some .operator)) ∧
    ∀ previous : Token, previous.EndsOperand → ¬ Juxtaposed (previous :: tokens) →
      numbers tokens ≤ operators tokens ∧
        (numbers tokens = operators tokens → Phase.operator.after tokens = some .operator) := by
  induction tokens with
  | nil => simp [numbers, operators, Phase.after]
  | cons token rest ih =>
      obtain ⟨ihoperand, ihoperator⟩ := ih
      obtain ⟨hnumbers, hoperators⟩ := counts_cons token rest
      constructor
      · intro hseparate
        have hrest : ¬ Juxtaposed rest := fun h => hseparate (h.cons token)
        cases hkind : token.kind with
        | number =>
            have := ihoperator token (Or.inl hkind) hseparate
            simp_all [Phase.after, Phase.next]
        | operator =>
            have := ihoperand hrest
            simp_all [Phase.after, Phase.next]
            omega
        | leftParen =>
            have := ihoperand hrest
            simp_all [Phase.after, Phase.next]
        | rightParen =>
            have := ihoperator token (Or.inr hkind) hseparate
            simp_all [Phase.after, Phase.next]
            omega
      · intro previous hprevious hseparate
        have htail : ¬ Juxtaposed (token :: rest) := fun h => hseparate (h.cons previous)
        have hrest : ¬ Juxtaposed rest := fun h => htail (h.cons token)
        have hstarts : ¬ token.StartsOperand := fun h =>
          hseparate ⟨[], previous, token, rest, rfl, hprevious, h⟩
        cases hkind : token.kind with
        | number => exact absurd (Or.inl hkind) hstarts
        | leftParen => exact absurd (Or.inr hkind) hstarts
        | operator =>
            have := ihoperand hrest
            simp_all [Phase.after, Phase.next]
        | rightParen =>
            have := ihoperator token (Or.inr hkind) htail
            simp_all [Phase.after, Phase.next]

/-- Without juxtaposed operands, one number more than there are operators means operands and
operators in turn. -/
theorem after_eq_of_countP {tokens : List Token} (hseparate : ¬ Juxtaposed tokens)
    (hcount : numbers tokens = operators tokens + 1) :
    Phase.operand.after tokens = some .operator :=
  ((counts_of_not_juxtaposed tokens).1 hseparate).2 hcount

/-! ### Converted lists -/

/-- Parentheses count neither as numbers nor as operators. -/
private theorem counts_filter (tokens : List Token) :
    numbers (tokens.filter (!·.isParen)) = numbers tokens ∧
      operators (tokens.filter (!·.isParen)) = operators tokens := by
  simp only [numbers, operators, List.countP_filter]
  constructor <;> refine List.countP_congr fun t _ => ?_
  · cases hkind : t.kind <;> simp [Token.isParen, hkind]
  · cases hkind : t.kind <;> simp [Token.isParen, hkind]

/-- **What is converted to a listing is infix exactly if no two operands stand side by side.** -/
theorem infix_iff_not_juxtaposed {tokens : List Token} {tree : Tree}
    (h : toPostfix tokens = .ok tree.listing) : Infix tokens ↔ ¬ Juxtaposed tokens := by
  have hperm := toPostfix_perm h
  constructor
  · intro hgrammar
    exact not_juxtaposed_of_after hgrammar.after_eq
  · intro hseparate
    obtain ⟨hnumbers, hoperators⟩ := counts_filter tokens
    have hcount : numbers tokens = operators tokens + 1 := by
      rw [← hnumbers, ← hoperators, numbers, operators, ← hperm.countP_eq, ← hperm.countP_eq]
      exact tree.countP_listing
    refine infix_of_closes (fun t ht hkind => ?_) (toPostfix_closes h)
      (after_eq_of_countP hseparate hcount)
    have hmem : t ∈ tree.listing := by
      rw [hperm.mem_iff]
      simp [ht, Token.isParen, hkind]
    rcases Tree.isCalculable_of_mem_listing hmem with hnumber | hsign
    · simp [hkind] at hnumber
    · exact hsign

end Calculator
