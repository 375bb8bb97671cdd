import Calculator.Proofs.Expression.Outcome
import Calculator.Proofs.Postfix.Underflow
import Mathlib.Data.List.Induction
import Mathlib.Data.Nat.Find

/-!
# Balanced parentheses

Which token lists are converted, and what the others are refused for. Only parentheses matter, and
the scan decides at the first closing one that is out of place: it directly follows an opening one,
or the tokens before it leave no group open. If there is none, the count at the end decides.

## Main definitions

* `Balanced`: the parentheses match, and no group is empty.
* `ClosesEmpty`, `ClosesNothing`, `Misplaced`: a closing parenthesis that is out of place.

## Main results

* `Conversion.run_of_placed`, `Conversion.run_of_closesEmpty`, `Conversion.run_of_closesNothing`:
  what a run comes to.
* `balanced_iff`: a list is balanced if nothing is misplaced and all groups are closed.
* `convert_exact`: **the exact acceptance of the conversion**, and the reason of every refusal.
-/

namespace Calculator

/-- The kind of the token at an index. -/
def kindAt (tokens : List Token) (p : Nat) : Option Token.Kind := tokens[p]?.map (·.kind)

/-- The parentheses of a token list match, and there is something in every group. -/
structure Balanced (tokens : List Token) : Prop where
  /-- No beginning of the list closes more groups than it opens. -/
  enough : ∀ before, before <+: tokens → closings before ≤ openings before
  /-- The whole list closes as many groups as it opens. -/
  settled : openings tokens = closings tokens
  /-- No opening parenthesis is directly followed by a closing one. -/
  filled : ∀ p, kindAt tokens p = some .leftParen → kindAt tokens (p + 1) ≠ some .rightParen

/-- The token at an index is a closing parenthesis right behind an opening one. -/
def ClosesEmpty (tokens : List Token) (p : Nat) : Prop :=
  kindAt tokens p = some .rightParen ∧ ∃ q, p = q + 1 ∧ kindAt tokens q = some .leftParen

/-- The token at an index is a closing parenthesis, and no group is open before it. -/
def ClosesNothing (tokens : List Token) (p : Nat) : Prop :=
  kindAt tokens p = some .rightParen ∧ openings (tokens.take p) ≤ closings (tokens.take p)

/-- The token at an index is a closing parenthesis that is out of place. -/
def Misplaced (tokens : List Token) (p : Nat) : Prop :=
  ClosesEmpty tokens p ∨ ClosesNothing tokens p

/-! ### Indexes -/

section

variable {tokens before after : List Token} {p : Nat} {kind : Token.Kind}

/-- An index with a kind is one of the list. -/
theorem lt_of_kindAt (h : kindAt tokens p = some kind) : p < tokens.length := by
  obtain ⟨token, htoken, -⟩ := Option.map_eq_some_iff.mp h
  exact (List.getElem?_eq_some_iff.mp htoken).1

/-- The kind at an index does not depend on what comes later. -/
theorem kindAt_append (h : p < before.length) : kindAt (before ++ after) p = kindAt before p := by
  rw [kindAt, kindAt, List.getElem?_append_left h]

/-- The kind of the token behind others. -/
theorem kindAt_length (token : Token) :
    kindAt (before ++ token :: after) before.length = some token.kind := by
  simp [kindAt]

/-- The token of a kind parts the list. -/
theorem exists_token_of_kindAt (h : kindAt tokens p = some kind) :
    ∃ token, token.kind = kind ∧ tokens = tokens.take p ++ token :: tokens.drop (p + 1) := by
  obtain ⟨token, htoken, hkind⟩ := Option.map_eq_some_iff.mp h
  obtain ⟨hp, hget⟩ := List.getElem?_eq_some_iff.mp htoken
  refine ⟨token, hkind, ?_⟩
  rw [← hget, List.getElem_cons_drop, List.take_append_drop]

/-- What is misplaced stays so when more tokens follow. -/
theorem Misplaced.append (h : Misplaced before p) : Misplaced (before ++ after) p := by
  rcases h with ⟨hclosing, q, rfl, hopening⟩ | ⟨hclosing, hcount⟩
  · refine Or.inl ⟨?_, q, rfl, ?_⟩
    · rw [kindAt_append (lt_of_kindAt hclosing), hclosing]
    · rw [kindAt_append (lt_of_kindAt hopening), hopening]
  · have hp := lt_of_kindAt hclosing
    refine Or.inr ⟨?_, ?_⟩
    · rw [kindAt_append hp, hclosing]
    · rwa [List.take_append_of_le_length (Nat.le_of_lt hp)]

/-- Nothing is misplaced in the beginning of a list in which nothing is. -/
theorem not_misplaced_before (h : ∀ q, ¬ Misplaced tokens q) (hbefore : before <+: tokens) :
    ∀ q, ¬ Misplaced before q := by
  obtain ⟨after, rfl⟩ := hbefore
  exact fun q hq => h q hq.append

/-- Before the first misplaced token nothing is misplaced. -/
theorem not_misplaced_take (hfirst : ∀ q < p, ¬ Misplaced tokens q) :
    ∀ q, ¬ Misplaced (tokens.take p) q := by
  intro q hq
  have hlt : q < p := by
    have hlength : q < (tokens.take p).length := by
      rcases hq with ⟨hclosing, -⟩ | ⟨hclosing, -⟩ <;> exact lt_of_kindAt hclosing
    exact hlength.trans_le (List.length_take_le p tokens)
  have happend : Misplaced (tokens.take p ++ tokens.drop p) q := hq.append
  rw [List.take_append_drop] at happend
  exact hfirst q hlt happend

end

namespace Conversion

variable {state next : Conversion} {token : Token} {tokens : List Token} {p : Nat}

/-! ### Steps -/

/-- Where a group is open, the tokens that wait in the innermost one can be told apart. -/
theorem exists_group_of_depth (h : state.depth ≠ 0) :
    ∃ leaving opening staying, state.pending = leaving ++ opening :: staying ∧
      (∀ t ∈ leaving, t.isLeftParen = false) ∧ opening.isLeftParen = true := by
  obtain ⟨leaving, staying, -, hpending, hleaving, hstaying⟩ :=
    exists_span (!·.isLeftParen) state.pending
  have hnone : ∀ t ∈ leaving, t.isLeftParen = false := by simpa using hleaving
  cases staying with
  | nil =>
      rw [List.append_nil] at hpending
      refine absurd ?_ h
      rw [depth, hpending, List.countP_eq_zero]
      simpa using hnone
  | cons opening below =>
      exact ⟨leaving, opening, below, hpending, hnone, by simpa using hstaying⟩

/-- Every token makes a move, except for a closing parenthesis that directly follows an opening
one or that finds no open group. -/
private theorem exists_moves (hclosing : token.kind = .rightParen →
      state.previous.any Token.isLeftParen = false ∧ state.depth ≠ 0) :
    ∃ next, Moves state token next := by
  cases hkind : token.kind with
  | number => exact ⟨_, .number hkind⟩
  | leftParen => exact ⟨_, .opens hkind⟩
  | operator =>
      have hstep : state.step token = .ok ((state.stack token).advance token) := by
        simp only [step, hkind]
      exact ⟨_, moves_of_step hstep⟩
  | rightParen =>
      obtain ⟨hprevious, hdepth⟩ := hclosing hkind
      obtain ⟨_, _, _, hpending, hleaving, hopening⟩ := exists_group_of_depth hdepth
      exact ⟨_, .closes hkind hprevious hpending hleaving hopening⟩

/-- A closing parenthesis that directly follows an opening one is refused. -/
private theorem step_of_closesEmpty (hkind : token.kind = .rightParen)
    (hprevious : state.previous.any Token.isLeftParen = true) :
    state.step token = .error (.emptyGroup state.position) := by
  simp only [step, hkind, closeGroup, hprevious, if_true]

/-- A closing parenthesis that finds no open group is refused. -/
private theorem step_of_closesNothing (hkind : token.kind = .rightParen)
    (hprevious : state.previous.any Token.isLeftParen = false) (hdepth : state.depth = 0) :
    state.step token = .error (.unmatched state.position) := by
  cases hstep : state.step token with
  | ok next =>
      have hcount := (moves_of_step hstep).depth_add
      simp only [hdepth, openings, closings, List.countP_singleton, hkind] at hcount
      simp at hcount
  | error defect =>
      obtain ⟨leaving, staying, hspan, -⟩ := exists_span (!·.isLeftParen) state.pending
      simp only [step, hkind, closeGroup, hprevious, hspan] at hstep
      cases staying <;> simp_all

/-- A move counts its token and remembers it. -/
private theorem Moves.advanced (h : Moves state token next) :
    next.position = state.position + 1 ∧ next.previous = some token := by
  cases h <;> exact ⟨rfl, rfl⟩

/-! ### Runs -/

/-- What the state remembers of the tokens that were read: their number and the last of them. Right
behind an opening parenthesis a group is open. -/
structure Remembers (state : Conversion) (tokens : List Token) : Prop where
  /-- The position is the number of tokens. -/
  position : state.position = tokens.length
  /-- The previous token is the last one. -/
  previous : state.previous = tokens.getLast?
  /-- Right behind an opening parenthesis a group is open. -/
  inside : state.previous.any Token.isLeftParen = true → state.depth ≠ 0

/-- A move keeps what is remembered up to date. -/
private theorem Remembers.moves (h : state.Remembers tokens) (hmove : Moves state token next) :
    next.Remembers (tokens ++ [token]) := by
  obtain ⟨hposition, hprevious⟩ := hmove.advanced
  refine ⟨?_, ?_, ?_⟩
  · rw [hposition, h.position, List.length_append, List.length_singleton]
  · rw [hprevious, List.getLast?_concat]
  · intro hleft
    have hkind : token.kind = .leftParen := by
      simpa [hprevious, Token.isLeftParen] using hleft
    have hcount := hmove.depth_add
    simp [openings, closings, hkind] at hcount
    omega

/-- **A list in which nothing is misplaced is read.** Induction on the tokens from the end: the last
one meets a state that remembers those before. -/
theorem run_of_placed (hplaced : ∀ q, ¬ Misplaced tokens q) :
    ∃ last, run {} tokens = .ok last ∧ last.Remembers tokens := by
  induction tokens using List.reverseRecOn with
  | nil => exact ⟨{}, rfl, rfl, rfl, fun h => by simp at h⟩
  | append_singleton tokens token ih =>
      obtain ⟨state, hrun, hremembers⟩ := ih (fun q hq => hplaced q hq.append)
      have hcount := depth_add_of_run hrun
      have hmove : ∃ next, Moves state token next := by
        refine exists_moves fun hkind => ?_
        have hclosing : kindAt (tokens ++ [token]) tokens.length = some .rightParen := by
          rw [kindAt_length, hkind]
        constructor
        · by_contra hleft
          rw [hremembers.previous] at hleft
          -- the parenthesis would close an empty group
          rcases List.eq_nil_or_concat tokens with rfl | ⟨before, opening, rfl⟩
          · simp at hleft
          have hopening : opening.kind = .leftParen := by
            simpa [Token.isLeftParen] using hleft
          refine hplaced _ (Or.inl ⟨hclosing, before.length, by simp, ?_⟩)
          rw [List.concat_eq_append, List.append_assoc, List.singleton_append, kindAt_length,
            hopening]
        · intro hdepth
          refine hplaced _ (Or.inr ⟨hclosing, ?_⟩)
          rw [List.take_left]
          simp only [hdepth, depth_start] at hcount
          omega
      obtain ⟨next, hmove⟩ := hmove
      refine ⟨next, ?_, hremembers.moves hmove⟩
      rw [run_append, hrun]
      exact run_cons_eq_ok_iff.mpr ⟨next, hmove, rfl⟩

/-- A run is that of the tokens before an index, and then of the others. -/
private theorem run_of_refused {closing : Token} {defect : Defect}
    (hsplit : tokens = tokens.take p ++ closing :: tokens.drop (p + 1))
    (hrun : run {} (tokens.take p) = .ok state) (hstep : state.step closing = .error defect) :
    run {} tokens = .error defect := by
  rw [hsplit, run_append, hrun]
  simp only [Except.bind, run, hstep]

/-- If the first misplaced token closes an empty group, it is refused for that. -/
theorem run_of_closesEmpty (h : ClosesEmpty tokens p) (hfirst : ∀ q < p, ¬ Misplaced tokens q) :
    run {} tokens = .error (.emptyGroup p) := by
  obtain ⟨hclosing, q, rfl, hopening⟩ := h
  obtain ⟨closing, hkind, hsplit⟩ := exists_token_of_kindAt hclosing
  obtain ⟨state, hrun, hremembers⟩ := run_of_placed (not_misplaced_take hfirst)
  have hlength : (tokens.take (q + 1)).length = q + 1 :=
    List.length_take_of_le (Nat.le_of_lt (lt_of_kindAt hclosing))
  have hprevious : state.previous.any Token.isLeftParen = true := by
    obtain ⟨opening, htoken, hleft⟩ := Option.map_eq_some_iff.mp hopening
    rw [hremembers.previous, List.take_add_one, htoken, Option.toList_some, List.getLast?_concat]
    simp [Token.isLeftParen, hleft]
  have hstep := step_of_closesEmpty hkind hprevious
  rw [hremembers.position, hlength] at hstep
  exact run_of_refused hsplit hrun hstep

/-- If the first misplaced token closes nothing, it is refused for that. -/
theorem run_of_closesNothing (h : ClosesNothing tokens p)
    (hfirst : ∀ q < p, ¬ Misplaced tokens q) : run {} tokens = .error (.unmatched p) := by
  obtain ⟨hclosing, hcounts⟩ := h
  obtain ⟨closing, hkind, hsplit⟩ := exists_token_of_kindAt hclosing
  obtain ⟨state, hrun, hremembers⟩ := run_of_placed (not_misplaced_take hfirst)
  have hlength : (tokens.take p).length = p :=
    List.length_take_of_le (Nat.le_of_lt (lt_of_kindAt hclosing))
  have hdepth : state.depth = 0 := by
    have hcount := depth_add_of_run hrun
    simp only [depth_start] at hcount
    omega
  have hprevious : state.previous.any Token.isLeftParen = false := by
    by_contra hleft
    exact hremembers.inside (by simpa using hleft) hdepth
  have hstep := step_of_closesNothing hkind hprevious hdepth
  rw [hremembers.position, hlength] at hstep
  exact run_of_refused hsplit hrun hstep

/-- Without an open group the conversion ends well. -/
theorem exists_finish_of_depth (h : state.depth = 0) : ∃ listing, state.finish = .ok listing := by
  refine ⟨_, finish_eq_ok_iff.mpr ⟨?_, rfl⟩⟩
  rw [depth, List.countP_eq_zero] at h
  simpa using h

/-- An open group is what the conversion is refused for at its end. -/
theorem exists_unclosed_of_depth (h : state.depth ≠ 0) :
    ∃ position, state.finish = .error (.unclosed position) := by
  obtain ⟨leaving, opening, staying, hpending, hleaving, hopening⟩ := exists_group_of_depth h
  exact ⟨_, finish_of_append hpending hleaving hopening⟩

end Conversion

/-! ### Balanced lists -/

section

variable {tokens : List Token}

/-- Where nothing is misplaced, no more groups are closed than opened. -/
theorem closings_le_openings (hplaced : ∀ q, ¬ Misplaced tokens q) :
    closings tokens ≤ openings tokens := by
  obtain ⟨last, hrun, -⟩ := Conversion.run_of_placed hplaced
  have hcount := Conversion.depth_add_of_run hrun
  simp only [Conversion.depth_start] at hcount
  omega

/-- A list is balanced if nothing is misplaced and as many groups are closed as opened. -/
theorem balanced_iff :
    Balanced tokens ↔ (∀ p, ¬ Misplaced tokens p) ∧ openings tokens = closings tokens := by
  constructor
  · intro h
    refine ⟨?_, h.settled⟩
    rintro p (⟨hclosing, q, rfl, hopening⟩ | ⟨hclosing, hcounts⟩)
    · exact h.filled q hopening hclosing
    · -- the beginning that ends with the parenthesis closes too much
      obtain ⟨closing, hkind, hsplit⟩ := exists_token_of_kindAt hclosing
      have henough := h.enough (tokens.take p ++ [closing])
        ⟨tokens.drop (p + 1), by rw [List.append_assoc]; exact hsplit.symm⟩
      rw [closings_append, openings_append] at henough
      simp [closings, openings, hkind] at henough hcounts
      omega
  · rintro ⟨hplaced, hsettled⟩
    refine ⟨fun before hbefore => ?_, hsettled, fun p hopening hclosing => ?_⟩
    · exact closings_le_openings (not_misplaced_before hplaced hbefore)
    · exact hplaced (p + 1) (Or.inl ⟨hclosing, p, rfl, hopening⟩)

/-- A balanced list is converted. -/
theorem exists_toPostfix_of_balanced (h : Balanced tokens) :
    ∃ listing, toPostfix tokens = .ok listing := by
  obtain ⟨hplaced, hsettled⟩ := balanced_iff.mp h
  obtain ⟨last, hrun, -⟩ := Conversion.run_of_placed hplaced
  have hdepth : last.depth = 0 := by
    have hcount := Conversion.depth_add_of_run hrun
    simp only [Conversion.depth_start] at hcount
    omega
  obtain ⟨listing, hfinish⟩ := Conversion.exists_finish_of_depth hdepth
  exact ⟨listing, toPostfix_eq_ok_iff.mpr ⟨last, hrun, hfinish⟩⟩

/-- Where nothing is misplaced but the list is not balanced, a group stays open. -/
theorem exists_unclosed_of_placed (hplaced : ∀ p, ¬ Misplaced tokens p) (h : ¬ Balanced tokens) :
    closings tokens < openings tokens ∧
      ∃ position, toPostfix tokens = .error (.unclosed position) := by
  have hle := closings_le_openings hplaced
  have hne : openings tokens ≠ closings tokens := fun heq => h (balanced_iff.mpr ⟨hplaced, heq⟩)
  obtain ⟨last, hrun, -⟩ := Conversion.run_of_placed hplaced
  have hdepth : last.depth ≠ 0 := by
    have hcount := Conversion.depth_add_of_run hrun
    simp only [Conversion.depth_start] at hcount
    omega
  obtain ⟨position, hfinish⟩ := Conversion.exists_unclosed_of_depth hdepth
  exact ⟨by omega, position, by simp only [toPostfix, hrun, hfinish]⟩

/-- What a run is refused for, the conversion is. -/
private theorem toPostfix_of_run {defect : Defect} (h : Conversion.run {} tokens = .error defect) :
    toPostfix tokens = .error defect := by
  rw [toPostfix, h]

/-- The first misplaced token is what a list is refused for. -/
theorem exists_first_misplaced (h : ∃ p, Misplaced tokens p) :
    ∃ p, (∀ q < p, ¬ Misplaced tokens q) ∧
      (ClosesEmpty tokens p ∧ toPostfix tokens = .error (.emptyGroup p) ∨
        ClosesNothing tokens p ∧ toPostfix tokens = .error (.unmatched p)) := by
  classical
  have hfirst : ∀ q < Nat.find h, ¬ Misplaced tokens q := fun q hq => Nat.find_min h hq
  refine ⟨Nat.find h, hfirst, ?_⟩
  rcases Nat.find_spec h with hempty | hnothing
  · exact Or.inl ⟨hempty, toPostfix_of_run (Conversion.run_of_closesEmpty hempty hfirst)⟩
  · exact Or.inr ⟨hnothing, toPostfix_of_run (Conversion.run_of_closesNothing hnothing hfirst)⟩

/-- A list with a misplaced token is refused. -/
theorem exists_defect_of_misplaced (h : ∃ p, Misplaced tokens p) :
    ∃ defect, toPostfix tokens = .error defect := by
  obtain ⟨p, -, ⟨-, hdefect⟩ | ⟨-, hdefect⟩⟩ := exists_first_misplaced h
  · exact ⟨_, hdefect⟩
  · exact ⟨_, hdefect⟩

/-- Converted lists are balanced. -/
theorem balanced_of_toPostfix {listing : List Token} (h : toPostfix tokens = .ok listing) :
    Balanced tokens := by
  have hplaced : ∀ p, ¬ Misplaced tokens p := by
    intro p hp
    obtain ⟨defect, hdefect⟩ := exists_defect_of_misplaced ⟨p, hp⟩
    simp [hdefect] at h
  by_contra hnot
  obtain ⟨-, position, hunclosed⟩ := exists_unclosed_of_placed hplaced hnot
  simp [hunclosed] at h

/-- A list that has a defect is reported as malformed for it. -/
theorem convert_of_defect {defect : Defect} (h : toPostfix tokens = .error defect) :
    ∃ problem, (convert tokens).value = .error (.problem problem) ∧
      problem.IsMalformedFor defect.reason defect.details := by
  refine ⟨(ExpressionError.malformed defect).toProblem, ?_, defect.isMalformedFor⟩
  rw [convert_value, h]
  rfl

/-- **The exact acceptance of the conversion.** A token list is converted if and only if it is
balanced. Otherwise it is malformed: the first closing parenthesis that is out of place decides,
with its index, as an empty group if it directly follows an opening parenthesis and as unbalanced if
it closes nothing; if none is out of place, groups were left open and the list is unbalanced. On a
stack the outcome is the same, so that nothing is ever asked of an empty stack. -/
theorem convert_exact (tokens : List Token) :
    ((∃ listing, (convert tokens).value = .ok listing) ↔ Balanced tokens) ∧
    (∀ p, (∀ q < p, ¬ Misplaced tokens q) →
      (ClosesEmpty tokens p →
        ∃ problem, (convert tokens).value = .error (.problem problem) ∧
          problem.IsMalformedFor "empty_group" [("position", .nat p)]) ∧
      (ClosesNothing tokens p →
        ∃ problem, (convert tokens).value = .error (.problem problem) ∧
          problem.IsMalformedFor "unbalanced_parentheses" [("position", .nat p)])) ∧
    ((∀ p, ¬ Misplaced tokens p) → ¬ Balanced tokens →
      closings tokens < openings tokens ∧
        ∃ problem position, (convert tokens).value = .error (.problem problem) ∧
          problem.IsMalformedFor "unbalanced_parentheses" [("position", .nat position)]) ∧
    convertOnStack tokens = (toPostfix tokens).mapError .refused := by
  refine ⟨⟨?_, ?_⟩, fun p hfirst => ⟨fun hempty => ?_, fun hnothing => ?_⟩, ?_,
    convertOnStack_eq tokens⟩
  · rintro ⟨listing, hlisting⟩
    rw [convert_value] at hlisting
    cases hconverted : toPostfix tokens with
    | ok found => exact balanced_of_toPostfix hconverted
    | error defect => simp [hconverted, Except.mapError] at hlisting
  · intro hbalanced
    obtain ⟨listing, hlisting⟩ := exists_toPostfix_of_balanced hbalanced
    refine ⟨listing, ?_⟩
    rw [convert_value, hlisting]
    rfl
  · exact convert_of_defect (toPostfix_of_run (Conversion.run_of_closesEmpty hempty hfirst))
  · exact convert_of_defect (toPostfix_of_run (Conversion.run_of_closesNothing hnothing hfirst))
  · intro hplaced hnot
    obtain ⟨hcounts, position, hunclosed⟩ := exists_unclosed_of_placed hplaced hnot
    obtain ⟨problem, hproblem, hreason⟩ := convert_of_defect hunclosed
    exact ⟨hcounts, problem, position, hproblem, hreason⟩

end

end Calculator
