import Calculator.Proofs.Infix.Grammar
import Calculator.Proofs.Postfix.Unclosed
import Mathlib.Data.List.Chain

/-!
# Levels of waiting operators

What waits between two tokens of a conversion. The opening parentheses that wait are those that
nothing has closed yet, and they part the operators into levels: one outside all groups, and one in
each open group. In a level every operator binds tighter than the one below it, because it would
have let that one go otherwise. So a level never has more operators than there are binding
strengths, and what waits is bounded by the number of open groups, however long the list is and
whether it is an expression or not.

## Main definitions

* `openParens`: the opening parentheses that nothing has closed yet.
* `Conversion.levels`: what waits, parted at the opening parentheses.
* `Conversion.Layered`: what every token keeps of the waiting tokens.

## Main results

* `openParens_concat`: what a further token does to the parentheses that are still open.
* `Conversion.Layered.moves`, `Conversion.Layered.run`: every token that is read keeps the layers.
* `Conversion.Layered.pairwise_of_mem_levels`: a level rises.
* `Conversion.levels_of_run`: **what waits between two tokens**, and how much that can be.
-/

namespace Calculator

/-! ### Pieces between separators -/

section

variable {α : Type} {p : α → Bool} {l piece : List α}

/-- Induction on a list from one separator to the next. -/
@[elab_as_elim]
private theorem separator_induction {motive : List α → Prop} (p : α → Bool)
    (single : ∀ l, (∀ a ∈ l, p a = false) → motive l)
    (parted : ∀ first separator rest, (∀ a ∈ first, p a = false) → p separator = true →
      motive rest → motive (first ++ separator :: rest))
    (l : List α) : motive l := by
  -- a piece may have any length, so the induction is on the length of the list
  induction hlength : l.length using Nat.strong_induction_on generalizing l with
  | h n ih =>
      obtain ⟨first, rest, -, rfl, hfirst, hrest⟩ := Conversion.exists_span (fun a => !p a) l
      have hfree : ∀ a ∈ first, p a = false := by simpa using hfirst
      cases rest with
      | nil => simpa using single first hfree
      | cons separator rest =>
          have hseparator : p separator = true := by simpa using hrest
          refine parted first separator rest hfree hseparator (ih rest.length ?_ rest rfl)
          rw [← hlength, List.length_append, List.length_cons]
          omega

/-- A list without separators counts none. -/
private theorem countP_of_free (h : ∀ a ∈ l, p a = false) : l.countP p = 0 :=
  List.countP_eq_zero.mpr (by simpa using h)

/-- The first separator and those behind it are counted. -/
private theorem countP_of_parted {first rest : List α} {separator : α}
    (hfree : ∀ a ∈ first, p a = false) (hseparator : p separator = true) :
    (first ++ separator :: rest).countP p = rest.countP p + 1 := by
  rw [List.countP_append, countP_of_free hfree, Nat.zero_add, List.countP_cons_of_pos hseparator]

/-- There is one piece more than there are separators. -/
theorem length_splitOnP (p : α → Bool) (l : List α) :
    (l.splitOnP p).length = l.countP p + 1 := by
  induction l using separator_induction p with
  | single l hfree =>
      rw [List.splitOnP_eq_singleton hfree, countP_of_free hfree, List.length_singleton]
  | parted first separator rest hfree hseparator ih =>
      rw [List.splitOnP_append_cons_of_forall_mem hfree separator hseparator, List.length_cons, ih,
        countP_of_parted hfree hseparator]

/-- A piece is one stretch of the list, and there is no separator in it. -/
theorem infix_of_mem_splitOnP (h : piece ∈ l.splitOnP p) :
    piece <:+: l ∧ ∀ a ∈ piece, p a = false := by
  induction l using separator_induction p with
  | single l hfree =>
      obtain rfl : piece = l := by simpa [List.splitOnP_eq_singleton hfree] using h
      exact ⟨List.infix_rfl, hfree⟩
  | parted first separator rest hfree hseparator ih =>
      rw [List.splitOnP_append_cons_of_forall_mem hfree separator hseparator, List.mem_cons] at h
      rcases h with rfl | h
      · exact ⟨(List.prefix_append _ _).isInfix, hfree⟩
      · obtain ⟨hstretch, hnone⟩ := ih h
        have hsuffix : rest <:+ first ++ separator :: rest :=
          (List.suffix_cons separator rest).trans (List.suffix_append _ _)
        exact ⟨hstretch.trans hsuffix.isInfix, hnone⟩

/-- Where the pieces are bounded, the length is bounded by the number of separators. -/
theorem length_le_of_splitOnP {k : Nat} (h : ∀ piece ∈ l.splitOnP p, piece.length ≤ k) :
    l.length ≤ (k + 1) * l.countP p + k := by
  induction l using separator_induction p with
  | single l hfree =>
      have hlength : l.length ≤ k := h l (by simp [List.splitOnP_eq_singleton hfree])
      exact hlength.trans (Nat.le_add_left _ _)
  | parted first separator rest hfree hseparator ih =>
      rw [List.splitOnP_append_cons_of_forall_mem hfree separator hseparator,
        List.forall_mem_cons] at h
      obtain ⟨hfirst, hpieces⟩ := h
      have hrest := ih hpieces
      rw [List.length_append, List.length_cons, countP_of_parted hfree hseparator, Nat.mul_succ]
      omega

end

/-! ### Parentheses that are still open -/

instance (tokens : List Token) (i : Nat) : Decidable (Unclosed tokens i) :=
  decidable_of_iff _ mem_openGroups_iff

/-- The opening parentheses that nothing has closed yet, in the order in which they were read. -/
def openParens (tokens : List Token) : List Token :=
  (tokens.zipIdx.filter fun entry => Unclosed tokens entry.2).map Prod.fst

section

variable {before : List Token} {token : Token}

/-- The open groups are listed from the innermost one, which was opened last. -/
theorem pairwise_openGroups (tokens : List Token) :
    (openGroups tokens).Pairwise fun inner outer => outer < inner := by
  induction tokens using List.reverseRecOn with
  | nil => exact List.Pairwise.nil
  | append_singleton before token ih =>
      rw [openGroups_concat]
      cases token.kind with
      | number | operator => exact ih
      | leftParen => exact List.Pairwise.cons (fun i hi => (mem_openGroups_iff.mp hi).lt) ih
      | rightParen => exact ih.tail

/-- From the outermost one, the open groups are those of the unclosed parentheses in the order in
which these were read. -/
theorem reverse_openGroups (tokens : List Token) :
    (openGroups tokens).reverse =
      (tokens.zipIdx.filter fun entry => Unclosed tokens entry.2).map Prod.snd := by
  have hindexes := (pairwise_zipIdx tokens).filter fun entry => Unclosed tokens entry.2
  refine List.Pairwise.eq_of_mem_iff (List.pairwise_reverse.mpr (pairwise_openGroups tokens))
    (List.pairwise_map.mpr hindexes) fun i => ?_
  simp only [List.mem_reverse, mem_openGroups_iff, List.mem_map, List.mem_filter,
    decide_eq_true_eq]
  constructor
  · intro h
    have hentry : tokens[i]? = some (tokens.get ⟨i, h.lt⟩) := List.getElem?_eq_getElem h.lt
    exact ⟨(_, i), ⟨List.mem_zipIdx_iff_getElem?.mpr hentry, h⟩, rfl⟩
  · rintro ⟨e, ⟨-, h⟩, rfl⟩
    exact h

/-- The parentheses that are still open are the tokens at the indexes of the open groups. -/
theorem map_some_openParens (tokens : List Token) :
    (openParens tokens).map some = (openGroups tokens).reverse.map (tokens[·]?) := by
  rw [reverse_openGroups, openParens, List.map_map, List.map_map]
  refine List.map_congr_left fun e he => ?_
  exact (List.mem_zipIdx_iff_getElem?.mp (List.mem_filter.mp he).1).symm

/-- What a further token does to the parentheses that are still open. -/
theorem openParens_concat :
    openParens (before ++ [token]) =
      match token.kind with
      | .leftParen => openParens before ++ [token]
      | .rightParen => (openParens before).dropLast
      | _ => openParens before := by
  have hsame : (openGroups before).reverse.map ((before ++ [token])[·]?) =
      (openParens before).map some := by
    rw [map_some_openParens]
    refine List.map_congr_left fun i hi => List.getElem?_append_left ?_
    exact (mem_openGroups_iff.mp (List.mem_reverse.mp hi)).lt
  refine List.map_injective_iff.mpr (Option.some_injective Token) ?_
  simp only [map_some_openParens, openGroups_concat]
  cases token.kind with
  | number | operator => exact hsame
  | leftParen => simp [hsame]
  | rightParen =>
      -- the innermost group is the first one that is listed, and was opened last
      simp [← hsame, List.map_dropLast]

end

namespace Conversion

variable {before after level : List Token} {token : Token} {state next last : Conversion}

/-! ### Layers -/

/-- If one operator waits right above another, it binds tighter. -/
def Tightens (upper lower : Token) : Prop :=
  upper.kind = .operator → lower.kind = .operator → lower.precedence < upper.precedence

/-- What waits after the tokens `before`: operators and opening parentheses that were read, all the
parentheses that are still open, and no operator on top of one that binds as tightly. -/
structure Layered (before : List Token) (state : Conversion) : Prop where
  /-- The waiting tokens are operators and opening parentheses. -/
  kinds : ∀ t ∈ state.pending, t.kind = .operator ∨ t.kind = .leftParen
  /-- The waiting tokens were read. -/
  read : ∀ t ∈ state.pending, t ∈ before
  /-- From bottom to top, the parentheses that wait are those that are still open. -/
  opened : state.pending.reverse.filter Token.isLeftParen = openParens before
  /-- The upper one of two neighbouring operators binds tighter. -/
  tightens : state.pending.IsChain Tightens

/-- Among tokens that open no group there are no opening parentheses. -/
private theorem filter_isLeftParen_eq_nil {l : List Token}
    (h : ∀ t ∈ l, t.isLeftParen = false) : l.filter Token.isLeftParen = [] := by
  simpa [List.filter_eq_nil_iff] using h

/-- Nothing waits at the start. -/
theorem layered_start : Layered [] {} where
  kinds := by simp
  read := by simp
  opened := rfl
  tightens := .nil

/-- **Every move keeps the layers.** Two operators become neighbours only where one comes to wait on
top of another that does not yield to it. -/
theorem Layered.moves (h : Layered before state) (hmove : Moves state token next) :
    Layered (before ++ [token]) next := by
  have hread : ∀ t ∈ state.pending, t ∈ before ++ [token] :=
    fun t ht => List.mem_append_left _ (h.read t ht)
  cases hmove with
  | number hkind =>
      refine ⟨h.kinds, hread, ?_, h.tightens⟩
      rw [openParens_concat, hkind]
      exact h.opened
  | opens hkind =>
      refine ⟨List.forall_mem_cons.mpr ⟨Or.inr hkind, h.kinds⟩,
        List.forall_mem_cons.mpr ⟨by simp, hread⟩, ?_, ?_⟩
      · rw [openParens_concat, hkind, ← h.opened]
        simp [openGroup, advance, Token.isLeftParen, hkind]
      · exact h.tightens.cons fun lower _ hoperator => by simp [hkind] at hoperator
  | @closes hkind leaving staying opening _ hpending hleaving hopening =>
      have hstays : ∀ t ∈ staying, t ∈ state.pending := fun t ht => by simp [hpending, ht]
      have hnone := filter_isLeftParen_eq_nil hleaving
      refine ⟨fun t ht => h.kinds t (hstays t ht), fun t ht => hread t (hstays t ht), ?_, ?_⟩
      · rw [openParens_concat, hkind, ← h.opened, hpending]
        simp [release, advance, hnone, hopening]
      · exact (hpending ▸ h.tightens).right_of_append.tail
  | @waits hkind leaving staying hpending hleaving hstaying =>
      have hstays : ∀ t ∈ staying, t ∈ state.pending := fun t ht => by simp [hpending, ht]
      have hnone :=
        filter_isLeftParen_eq_nil fun t ht => isLeftParen_of_yieldsTo (hleaving t ht)
      refine ⟨List.forall_mem_cons.mpr ⟨Or.inl hkind, fun t ht => h.kinds t (hstays t ht)⟩,
        List.forall_mem_cons.mpr ⟨by simp, fun t ht => hread t (hstays t ht)⟩, ?_, ?_⟩
      · rw [openParens_concat, hkind, ← h.opened, hpending]
        simp [release, advance, hnone, Token.isLeftParen, hkind]
      · -- the topmost token that stays does not yield, so as an operator it binds less tightly
        refine (hpending ▸ h.tightens).right_of_append.cons fun lower hlower _ hoperator => ?_
        have hyields := hstaying lower hlower
        simpa [yieldsTo, Token.isOperator, hoperator] using hyields

/-- **Every run keeps the layers.** -/
theorem Layered.run (h : Layered before state) (hrun : state.run after = .ok last) :
    Layered (before ++ after) last := by
  induction after generalizing before state with
  | nil =>
      obtain rfl := Except.ok.inj hrun
      rwa [List.append_nil]
  | cons token after ih =>
      obtain ⟨next, hmove, hrest⟩ := run_cons_eq_ok_iff.mp hrun
      have hlast := ih (h.moves hmove) hrest
      rwa [List.append_assoc, List.singleton_append] at hlast

/-! ### Levels -/

/-- What waits from bottom to top, parted at the opening parentheses: the operators below the first
one, those between two neighbouring ones, and those above the last one. -/
def levels (state : Conversion) : List (List Token) :=
  state.pending.reverse.splitOnP Token.isLeftParen

/-- There is one level outside all groups, and one for each group that is open. -/
theorem Layered.length_levels (h : Layered before state) :
    state.levels.length = (openParens before).length + 1 := by
  rw [levels, length_splitOnP, List.countP_eq_length_filter, h.opened]

/-- A level has operators that were read. -/
theorem Layered.of_mem_levels (h : Layered before state) (hlevel : level ∈ state.levels) :
    ∀ t ∈ level, t ∈ before ∧ t.kind = .operator := by
  obtain ⟨hstretch, hnone⟩ := infix_of_mem_splitOnP hlevel
  intro t ht
  have hmem : t ∈ state.pending := List.mem_reverse.mp (hstretch.subset ht)
  refine ⟨h.read t hmem, (h.kinds t hmem).resolve_right fun hkind => ?_⟩
  simpa [Token.isLeftParen, hkind] using hnone t ht

/-- **A level rises**: every operator binds tighter than those below it. -/
theorem Layered.pairwise_of_mem_levels (h : Layered before state) (hlevel : level ∈ state.levels) :
    level.Pairwise fun lower upper => lower.precedence < upper.precedence := by
  have hoperators := h.of_mem_levels hlevel
  have hchain : level.IsChain fun lower upper => Tightens upper lower :=
    List.IsChain.infix (List.isChain_reverse.mpr h.tightens) (infix_of_mem_splitOnP hlevel).1
  have hstrengths : (level.map Token.precedence).IsChain (· < ·) := by
    rw [List.isChain_map]
    exact hchain.imp_of_mem_imp fun lower upper hlower hupper htightens =>
      htightens (hoperators upper hupper).2 (hoperators lower hlower).2
  exact List.pairwise_map.mp hstrengths.pairwise

/-! ### Bounds -/

/-- The binding strengths of the operators. -/
private theorem precedence_mem (o : Operator) : o.precedence ∈ [1, 2, 3] := by
  cases o <;> decide

/-- A level of known operators has one of each binding strength at most. -/
theorem Layered.length_level_le (h : Layered before state)
    (hknown : ∀ t ∈ before, t.kind = .operator → ∃ o : Operator, t.text = o.symbol)
    (hlevel : level ∈ state.levels) : level.length ≤ 3 := by
  have hdistinct : (level.map Token.precedence).Nodup :=
    (List.pairwise_map.mpr (h.pairwise_of_mem_levels hlevel)).imp Nat.ne_of_lt
  have hstrengths : level.map Token.precedence ⊆ [1, 2, 3] := by
    intro strength hstrength
    obtain ⟨t, ht, rfl⟩ := List.mem_map.mp hstrength
    obtain ⟨hread, hkind⟩ := h.of_mem_levels hlevel t ht
    obtain ⟨o, ho⟩ := hknown t hread hkind
    have hprecedence : t.precedence = o.precedence := Sign.precedence_token ⟨t, o, hkind, ho⟩
    exact hprecedence ▸ precedence_mem o
  simpa using (List.subperm_of_subset hdistinct hstrengths).length_le

/-- Where the levels are bounded, what waits is bounded by the number of open parentheses. -/
theorem Layered.length_pending_le {k : Nat} (h : Layered before state)
    (hlevels : ∀ level ∈ state.levels, level.length ≤ k) :
    state.pending.length ≤ (k + 1) * (openParens before).length + k := by
  have hlength := length_le_of_splitOnP hlevels
  rwa [List.length_reverse, List.countP_eq_length_filter, h.opened] at hlength

/-- **What waits between two tokens.** After the tokens `before` of any list, operators and opening
parentheses wait. The parentheses are those that nothing has closed yet, in the order in which they
were read, and they part the operators into levels, in each of which the binding strength rises from
bottom to top. If all operators that were read are known ones, a level has three operators at most,
and with `d` open parentheses no more than `4 * d + 3` tokens wait. -/
theorem levels_of_run (hrun : run {} before = .ok state) :
    (∀ after, run {} (before ++ after) = state.run after) ∧
      (∀ t ∈ state.pending, t.kind = .operator ∨ t.kind = .leftParen) ∧
      state.pending.reverse.filter Token.isLeftParen = openParens before ∧
      state.levels.length = (openParens before).length + 1 ∧
      (∀ level ∈ state.levels, (∀ t ∈ level, t.kind = .operator) ∧
        level.Pairwise fun lower upper => lower.precedence < upper.precedence) ∧
      ((∀ t ∈ before, t.kind = .operator → ∃ o : Operator, t.text = o.symbol) →
        (∀ level ∈ state.levels, level.length ≤ 3) ∧
          state.pending.length ≤ 4 * (openParens before).length + 3) := by
  have hlayered : Layered before state := layered_start.run hrun
  refine ⟨fun after => ?_, hlayered.kinds, hlayered.opened, hlayered.length_levels,
    fun level hlevel => ⟨fun t ht => ?_, hlayered.pairwise_of_mem_levels hlevel⟩,
    fun hknown => ?_⟩
  · rw [run_append, hrun]
    rfl
  · exact (hlayered.of_mem_levels hlevel t ht).2
  · have hlevels : ∀ level ∈ state.levels, level.length ≤ 3 :=
      fun level hlevel => hlayered.length_level_le hknown hlevel
    exact ⟨hlevels, hlayered.length_pending_le hlevels⟩

/-- Behind `1 + 2 * 3 ^ ( ( 4 - 5 ) - 6 / 7 ^ ( 8 + 9 * 1 ^` two parentheses are open, the first and
the third one, and the bound is met. -/
theorem levels_of_run_full :
    let number (text : String) : Token := { kind := .number, text }
    let sign (o : Operator) : Token := { kind := .operator, text := o.symbol }
    let opening : Token := { kind := .leftParen, text := "(" }
    let closing : Token := { kind := .rightParen, text := ")" }
    let before : List Token :=
      [number "1", sign .plus, number "2", sign .times, number "3", sign .power, opening, opening,
        number "4", sign .minus, number "5", closing, sign .minus, number "6", sign .divide,
        number "7", sign .power, opening, number "8", sign .plus, number "9", sign .times,
        number "1", sign .power]
    ∃ state, run {} before = .ok state ∧
      (∀ t ∈ before, t.kind = .operator → ∃ o : Operator, t.text = o.symbol) ∧
      state.levels = [[sign .plus, sign .times, sign .power],
        [sign .minus, sign .divide, sign .power], [sign .plus, sign .times, sign .power]] ∧
      (openParens before).length = 2 ∧ state.pending.length = 11 ∧
      state.pending.length ≤ 4 * (openParens before).length + 3 := by
  intro number sign opening closing before
  have hknown : ∀ t ∈ before, t.kind = .operator → ∃ o : Operator, t.text = o.symbol := by
    simp [before, number, sign, opening, closing]
  refine ⟨_, rfl, hknown, rfl, rfl, rfl, ?_⟩
  obtain ⟨-, -, -, -, -, hbound⟩ := levels_of_run (show run {} before = .ok _ from rfl)
  exact (hbound hknown).2

end Conversion

end Calculator
