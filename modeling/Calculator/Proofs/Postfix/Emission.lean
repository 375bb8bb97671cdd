import Calculator.Proofs.Postfix.Yard
import Mathlib.Data.List.Sort

/-!
# The order of emission

Where the shunting yard puts every token, without the yard. A number is emitted at its own index.
An operator is emitted at the index of the first later token in the same group that is an operator
that does not bind tighter, or closes the group, or else at the end of the list. Sorted by these
times, and the last one first where they are equal, the tokens are in postfix order. This holds of
every list that is converted, whether it is an expression or not.

## Main definitions

* `openGroups`, `groupsAround`: the groups that a token stands in.
* `letsGo`, `emissionTime`: when a token is emitted.
* `ComesBefore`, `emissionOrder`: the order of the times.
* `Conversion.Tracks`: what the state of a conversion has to do with them.

## Main results

* `Conversion.Tracks.moves`, `Conversion.Tracks.run`: every token that is read keeps the times.
* `eq_emissionOrder`: there is one order in which the tokens come one before another.
* `toPostfix_eq_emissionOrder`: **a list is converted to its order of emission**.
-/

open scoped List

namespace Calculator

/-! ### Times -/

/-- The groups that are open behind the tokens, each given by the index of its opening parenthesis,
the innermost first. -/
def openGroups (tokens : List Token) : List Nat :=
  tokens.zipIdx.foldl
    (fun groups entry =>
      match entry.1.kind with
      | .leftParen => entry.2 :: groups
      | .rightParen => groups.tail
      | _ => groups)
    []

/-- The groups around the token at an index, the innermost first. -/
def groupsAround (tokens : List Token) (i : Nat) : List Nat := openGroups (tokens.take i)

/-- Whether the token at `j` lets an operator go that waits since its index: it comes later, it
stands in the same groups, and it closes the innermost one or is an operator that does not bind
tighter. -/
def letsGo (tokens : List Token) (waiting : Token × Nat) (j : Nat) : Bool :=
  waiting.2 < j && groupsAround tokens j = groupsAround tokens waiting.2 &&
    (tokens[j]?).any fun token =>
      token.kind = .rightParen ||
        token.kind = .operator && token.precedence ≤ waiting.1.precedence

/-- When a token with its index is emitted: a number at its index, and an operator when the first
token lets it go, or at the end. -/
def emissionTime (tokens : List Token) (entry : Token × Nat) : Nat :=
  if entry.1.kind = .number then entry.2
  else ((List.range tokens.length).find? (letsGo tokens entry)).getD tokens.length

/-- One token comes before another: it is emitted earlier, or at the same time but was read
later. -/
def ComesBefore (tokens : List Token) (first second : Token × Nat) : Prop :=
  emissionTime tokens first < emissionTime tokens second ∨
    emissionTime tokens first = emissionTime tokens second ∧ second.2 < first.2

instance (tokens : List Token) (first second : Token × Nat) :
    Decidable (ComesBefore tokens first second) :=
  inferInstanceAs (Decidable (_ ∨ _ ∧ _))

/-- The tokens that are no parentheses, with their indexes, sorted by the time of their emission. -/
def emissionOrder (tokens : List Token) : List (Token × Nat) :=
  (tokens.zipIdx.filter (!·.1.isParen)).mergeSort fun first second =>
    !decide (ComesBefore tokens second first)

section

variable {tokens before after : List Token} {token : Token} {entry : Token × Nat} {j : Nat}

/-- What a further token does to the open groups. -/
theorem openGroups_concat :
    openGroups (before ++ [token]) =
      match token.kind with
      | .leftParen => before.length :: openGroups before
      | .rightParen => (openGroups before).tail
      | _ => openGroups before := by
  simp only [openGroups, List.zipIdx_append, List.foldl_append]
  simp

/-- Whether a token that is read lets go of one before it. -/
theorem letsGo_length (htokens : tokens = before ++ token :: after)
    (hentry : entry.2 < before.length) :
    letsGo tokens entry before.length = true ↔
      openGroups before = groupsAround tokens entry.2 ∧
        (token.kind = .rightParen ∨
          token.kind = .operator ∧ token.precedence ≤ entry.1.precedence) := by
  have haround : groupsAround tokens before.length = openGroups before := by
    rw [groupsAround, htokens, List.take_left]
  have htoken : tokens[before.length]? = some token := by
    simp [htokens]
  simp [letsGo, hentry, haround, htoken]

/-- Behind the end nothing is let go. -/
theorem letsGo_of_length_le (h : tokens.length ≤ j) : letsGo tokens entry j = false := by
  simp [letsGo, List.getElem?_eq_none h]

/-- A token that was read before lets nothing go. -/
theorem letsGo_of_le (h : j ≤ entry.2) : letsGo tokens entry j = false := by
  simp [letsGo, Nat.not_lt.mpr h]

/-- A number is emitted at its index. -/
theorem emissionTime_number (hkind : entry.1.kind = .number) :
    emissionTime tokens entry = entry.2 := if_pos hkind

/-- An operator is emitted when the first token lets it go. -/
theorem emissionTime_eq (hkind : entry.1.kind ≠ .number) (hgo : letsGo tokens entry j = true)
    (hfirst : ∀ k < j, letsGo tokens entry k = false) : emissionTime tokens entry = j := by
  have hj : j < tokens.length := by
    by_contra hle
    rw [letsGo_of_length_le (by omega)] at hgo
    contradiction
  have hfind : (List.range tokens.length).find? (letsGo tokens entry) = some j := by
    rw [List.find?_range_eq_some]
    exact ⟨hgo, List.mem_range.mpr hj, fun k hk => by simp [hfirst k hk]⟩
  rw [emissionTime, if_neg hkind, hfind, Option.getD_some]

/-- An operator that no token lets go is emitted at the end. -/
theorem emissionTime_eq_length (hkind : entry.1.kind ≠ .number)
    (hnone : ∀ j < tokens.length, letsGo tokens entry j = false) :
    emissionTime tokens entry = tokens.length := by
  have hfind : (List.range tokens.length).find? (letsGo tokens entry) = none := by
    rw [List.find?_eq_none]
    intro k hk
    simp [hnone k (List.mem_range.mp hk)]
  rw [emissionTime, if_neg hkind, hfind, Option.getD_none]

/-- An operator is emitted after it was read. -/
theorem lt_emissionTime (hkind : entry.1.kind ≠ .number) (hentry : entry.2 < tokens.length) :
    entry.2 < emissionTime tokens entry := by
  rw [emissionTime, if_neg hkind]
  cases hfind : (List.range tokens.length).find? (letsGo tokens entry) with
  | none => exact hentry
  | some j =>
      have hgo := List.find?_some hfind
      simp only [letsGo, Bool.and_eq_true, decide_eq_true_eq] at hgo
      exact hgo.1.1

end

/-! ### Waiting tokens -/

/-- The groups that waiting tokens open, given by the indexes of the opening parentheses. -/
def groupsOf (pending : List (Token × Nat)) : List Nat :=
  (pending.filter (·.1.isLeftParen)).map Prod.snd

/-- Every waiting token was read later than those below it, and stands in the groups that they
open. -/
def Nested (tokens : List Token) : List (Token × Nat) → Prop
  | [] => True
  | entry :: below =>
    groupsAround tokens entry.2 = groupsOf below ∧ (∀ other ∈ below, other.2 < entry.2) ∧
      Nested tokens below

section

variable {tokens : List Token} {leaving staying : List (Token × Nat)} {entry : Token × Nat}

/-- Tokens that open no group do not show in the groups. -/
theorem groupsOf_append (hleaving : ∀ e ∈ leaving, e.1.isLeftParen = false) :
    groupsOf (leaving ++ staying) = groupsOf staying := by
  have hnone : leaving.filter (·.1.isLeftParen) = [] := by
    rw [List.filter_eq_nil_iff]
    intro e he
    simp [hleaving e he]
  rw [groupsOf, List.filter_append, hnone, List.nil_append, groupsOf]

/-- What waits below is nested as well. -/
theorem Nested.below (h : Nested tokens (leaving ++ staying)) : Nested tokens staying := by
  induction leaving with
  | nil => exact h
  | cons e leaving ih => exact ih h.2.2

/-- Tokens on top that open no group all stand in the innermost one. -/
theorem Nested.groupsAround_eq (h : Nested tokens (leaving ++ staying))
    (hleaving : ∀ e ∈ leaving, e.1.isLeftParen = false) (hentry : entry ∈ leaving) :
    groupsAround tokens entry.2 = groupsOf staying := by
  induction leaving with
  | nil => simp at hentry
  | cons e leaving ih =>
      obtain ⟨-, hrest⟩ := List.forall_mem_cons.mp hleaving
      rcases List.mem_cons.mp hentry with rfl | hentry
      · exact h.1.trans (groupsOf_append hrest)
      · exact ih h.2.2 hrest hentry

/-- A waiting token stands in no more groups than are open. -/
theorem Nested.length_groupsAround_le {pending : List (Token × Nat)} (h : Nested tokens pending)
    (hentry : entry ∈ pending) :
    (groupsAround tokens entry.2).length ≤ (groupsOf pending).length := by
  induction pending with
  | nil => simp at hentry
  | cons e below ih =>
      have hle : (groupsOf below).length ≤ (groupsOf (e :: below)).length := by
        simp only [groupsOf, List.length_map]
        exact ((List.sublist_cons_self e below).filter _).length_le
      rcases List.mem_cons.mp hentry with rfl | hentry
      · rwa [h.1]
      · exact (ih h.2.2 hentry).trans hle

/-- The token on top was read last. -/
theorem Nested.pairwise (h : Nested tokens leaving) :
    leaving.Pairwise fun upper lower => lower.2 < upper.2 := by
  induction leaving with
  | nil => exact List.Pairwise.nil
  | cons e below ih => exact List.Pairwise.cons h.2.1 (ih h.2.2)

end

namespace Conversion

variable {tokens before after : List Token} {token : Token} {state next : Conversion}
variable {emitted pending leaving staying : List (Token × Nat)}

/-- What the state has to do with the times, after the tokens `before` of a list: the emitted and
the waiting tokens have these indexes, what was emitted was due and is in order, and what waits is
not due yet and stands in the groups that are open. -/
structure Tracks (tokens before : List Token) (state : Conversion)
    (emitted pending : List (Token × Nat)) : Prop where
  /-- The emitted tokens, last first. -/
  emitted_eq : emitted.map Prod.fst = state.emitted
  /-- The waiting tokens, last first. -/
  pending_eq : pending.map Prod.fst = state.pending
  /-- Every token that is no parenthesis was emitted or waits. -/
  complete : emitted ++ pending.filter (!·.1.isLeftParen) ~ before.zipIdx.filter (!·.1.isParen)
  /-- The emitted tokens are in order. -/
  ordered : emitted.Pairwise fun later earlier => ComesBefore tokens earlier later
  /-- The emitted tokens were due. -/
  due : ∀ e ∈ emitted, emissionTime tokens e < before.length
  /-- The waiting tokens are operators and opening parentheses. -/
  kinds : ∀ e ∈ pending, e.1.isLeftParen = true ∨ e.1.kind = .operator
  /-- The waiting tokens were read. -/
  read : ∀ e ∈ pending, e.2 < before.length
  /-- Nothing has let a waiting operator go. -/
  held : ∀ e ∈ pending, e.1.kind = .operator → ∀ j < before.length, letsGo tokens e j = false
  /-- The waiting tokens are nested. -/
  nested : Nested tokens pending
  /-- The groups that are open are those that wait. -/
  opened : openGroups before = groupsOf pending

/-- Nothing is read or emitted at the start. -/
theorem tracks_start (tokens : List Token) : Tracks tokens [] {} [] [] where
  emitted_eq := rfl
  pending_eq := rfl
  complete := by simp
  ordered := List.Pairwise.nil
  due := by simp
  kinds := by simp
  read := by simp
  held := by simp
  nested := trivial
  opened := rfl

/-- A further parenthesis is no entry. -/
private theorem filter_zipIdx_concat_of_isParen (h : token.isParen = true) :
    (before ++ [token]).zipIdx.filter (!·.1.isParen) = before.zipIdx.filter (!·.1.isParen) := by
  simp [List.zipIdx_append, List.filter_append, h]

/-- Every other further token is the next entry. -/
private theorem filter_zipIdx_concat (h : token.isParen = false) :
    (before ++ [token]).zipIdx.filter (!·.1.isParen) =
      before.zipIdx.filter (!·.1.isParen) ++ [(token, before.length)] := by
  simp [List.zipIdx_append, List.filter_append, h]

/-- A token that lets none of the waiting operators go leaves them waiting. -/
private theorem held_concat
    (hheld : ∀ e ∈ staying, e.1.kind = .operator → ∀ j < before.length, letsGo tokens e j = false)
    (hstays : ∀ e ∈ staying, e.1.kind = .operator → letsGo tokens e before.length = false) :
    ∀ e ∈ staying, e.1.kind = .operator →
      ∀ j < (before ++ [token]).length, letsGo tokens e j = false := by
  intro e he hkind j hj
  rw [List.length_append, List.length_singleton] at hj
  rcases Nat.lt_succ_iff_lt_or_eq.mp hj with hlt | rfl
  · exact hheld e he hkind j hlt
  · exact hstays e he hkind

/-- A number or an opening parenthesis lets nothing go. -/
private theorem Tracks.held_of_kind (h : Tracks tokens before state emitted pending)
    (htokens : tokens = before ++ token :: after)
    (hkind : token.kind = .number ∨ token.kind = .leftParen) :
    ∀ e ∈ pending, e.1.kind = .operator →
      ∀ j < (before ++ [token]).length, letsGo tokens e j = false := by
  refine held_concat h.held fun e he _ => Bool.eq_false_iff.mpr fun hgo => ?_
  obtain ⟨-, hrelease⟩ := (letsGo_length htokens (h.read e he)).mp hgo
  rcases hkind with hkind | hkind <;> simp [hkind] at hrelease

/-- A number is due at once. -/
private theorem Tracks.emit (h : Tracks tokens before state emitted pending)
    (htokens : tokens = before ++ token :: after) (hkind : token.kind = .number) :
    Tracks tokens (before ++ [token]) ((state.emit token).advance token)
      ((token, before.length) :: emitted) pending where
  emitted_eq := by simp [Conversion.emit, advance, h.emitted_eq]
  pending_eq := h.pending_eq
  complete := by
    rw [filter_zipIdx_concat (by simp [Token.isParen, hkind]), List.cons_append]
    exact (h.complete.cons _).trans (List.perm_append_singleton _ _).symm
  ordered := by
    have htime : emissionTime tokens (token, before.length) = before.length :=
      emissionTime_number hkind
    refine List.Pairwise.cons (fun e he => Or.inl ?_) h.ordered
    rw [htime]
    exact h.due e he
  due := by
    have htime : emissionTime tokens (token, before.length) = before.length :=
      emissionTime_number hkind
    rw [List.length_append, List.length_singleton]
    refine List.forall_mem_cons.mpr ⟨?_, fun e he => (h.due e he).trans (Nat.lt_succ_self _)⟩
    rw [htime]
    exact Nat.lt_succ_self _
  kinds := h.kinds
  read := fun e he => (h.read e he).trans (by simp)
  held := h.held_of_kind htokens (Or.inl hkind)
  nested := h.nested
  opened := by rw [openGroups_concat, hkind, h.opened]

/-- An opening parenthesis waits in the groups that are open. -/
private theorem Tracks.openGroup (h : Tracks tokens before state emitted pending)
    (htokens : tokens = before ++ token :: after) (hkind : token.kind = .leftParen) :
    Tracks tokens (before ++ [token]) ((state.openGroup token).advance token) emitted
      ((token, before.length) :: pending) where
  emitted_eq := h.emitted_eq
  pending_eq := by simp [Conversion.openGroup, advance, h.pending_eq]
  complete := by
    rw [filter_zipIdx_concat_of_isParen (by simp [Token.isParen, hkind])]
    simpa [Token.isLeftParen, hkind] using h.complete
  ordered := h.ordered
  due := fun e he => (h.due e he).trans (by simp)
  kinds := List.forall_mem_cons.mpr ⟨Or.inl (by simp [Token.isLeftParen, hkind]), h.kinds⟩
  read := List.forall_mem_cons.mpr ⟨by simp, fun e he => (h.read e he).trans (by simp)⟩
  held := List.forall_mem_cons.mpr
    ⟨fun hoperator => by simp [hkind] at hoperator, h.held_of_kind htokens (Or.inr hkind)⟩
  nested := by
    refine ⟨?_, h.read, h.nested⟩
    rw [groupsAround, htokens, List.take_left, h.opened]
  opened := by
    rw [openGroups_concat, hkind, h.opened]
    simp [groupsOf, Token.isLeftParen, hkind]

/-- A waiting operator that is let go is due. -/
private theorem Tracks.emissionTime_eq {e : Token × Nat}
    (h : Tracks tokens before state emitted pending) (he : e ∈ pending)
    (hkind : e.1.kind = .operator) (hgo : letsGo tokens e before.length = true) :
    emissionTime tokens e = before.length :=
  Calculator.emissionTime_eq (by simp [hkind]) hgo (h.held e he hkind)

/-- Operators that are due at the same time leave in order, the one on top first. -/
private theorem ordered_release (h : Tracks tokens before state emitted pending)
    (hlater : leaving.Pairwise fun upper lower => lower.2 < upper.2)
    (hdue : ∀ e ∈ leaving, emissionTime tokens e = before.length) :
    (leaving.reverse ++ emitted).Pairwise fun later earlier =>
      ComesBefore tokens earlier later := by
  refine List.pairwise_append.mpr ⟨?_, h.ordered, fun e he f hf => Or.inl ?_⟩
  · rw [List.pairwise_reverse]
    refine hlater.imp_of_mem fun hupper hlower hlt => Or.inr ⟨?_, hlt⟩
    rw [hdue _ hupper, hdue _ hlower]
  · rw [hdue e (List.mem_reverse.mp he)]
    exact h.due f hf

/-- Operators that leave when they are due were due afterwards. -/
private theorem due_release (h : Tracks tokens before state emitted pending)
    (hdue : ∀ e ∈ leaving, emissionTime tokens e = before.length) :
    ∀ e ∈ leaving.reverse ++ emitted, emissionTime tokens e < (before ++ [token]).length := by
  intro e he
  rw [List.length_append, List.length_singleton]
  rcases List.mem_append.mp he with he | he
  · rw [hdue e (List.mem_reverse.mp he)]
    exact Nat.lt_succ_self _
  · exact (h.due e he).trans (Nat.lt_succ_self _)

/-- A closing parenthesis lets all operators of the innermost group go. -/
private theorem Tracks.closeGroup {opening : Token × Nat}
    (h : Tracks tokens before state emitted (leaving ++ opening :: staying))
    (htokens : tokens = before ++ token :: after) (hkind : token.kind = .rightParen)
    (hleaving : ∀ e ∈ leaving, e.1.isLeftParen = false) (hopening : opening.1.isLeftParen = true) :
    Tracks tokens (before ++ [token])
      ((state.release (leaving.map Prod.fst) (staying.map Prod.fst)).advance token)
      (leaving.reverse ++ emitted) staying := by
  have hopened : openGroups before = opening.2 :: groupsOf staying := by
    rw [h.opened, groupsOf_append hleaving]
    simp [groupsOf, hopening]
  have hoperator : ∀ e ∈ leaving, e.1.kind = .operator := fun e he =>
    (h.kinds e (by simp [he])).resolve_left (by simp [hleaving e he])
  have hdue : ∀ e ∈ leaving, emissionTime tokens e = before.length := by
    intro e he
    have hmem : e ∈ leaving ++ opening :: staying := by simp [he]
    refine h.emissionTime_eq hmem (hoperator e he) ?_
    rw [letsGo_length htokens (h.read e hmem), h.nested.groupsAround_eq hleaving he]
    exact ⟨by rw [h.opened, groupsOf_append hleaving], Or.inl hkind⟩
  have hnested : Nested tokens staying := h.nested.below.2.2
  -- below the parenthesis fewer groups are open
  have hstays : ∀ e ∈ staying, e.1.kind = .operator → letsGo tokens e before.length = false := by
    refine fun e he _ => Bool.eq_false_iff.mpr fun hgo => ?_
    obtain ⟨hgroups, -⟩ := (letsGo_length htokens (h.read e (by simp [he]))).mp hgo
    have hle := hnested.length_groupsAround_le he
    rw [← hgroups, hopened, List.length_cons] at hle
    omega
  exact {
    emitted_eq := by simp [release, advance, h.emitted_eq]
    pending_eq := rfl
    complete := by
      rw [filter_zipIdx_concat_of_isParen (by simp [Token.isParen, hkind])]
      refine (release_perm _ fun e he => by simp [hleaving e he]).trans ?_
      simpa [hopening] using h.complete
    ordered := ordered_release h (List.pairwise_append.mp h.nested.pairwise).1 hdue
    due := due_release h hdue
    kinds := fun e he => h.kinds e (by simp [he])
    read := fun e he => (h.read e (by simp [he])).trans (by simp)
    held := held_concat (fun e he => h.held e (by simp [he])) hstays
    nested := hnested
    opened := by rw [openGroups_concat, hkind, hopened, List.tail_cons] }

/-- A waiting operator stands at its index. -/
private theorem Tracks.getElem?_eq {e : Token × Nat}
    (h : Tracks tokens before state emitted pending) (htokens : tokens = before ++ after)
    (he : e ∈ pending) (hkind : e.1.kind = .operator) : tokens[e.2]? = some e.1 := by
  have hmem : e ∈ before.zipIdx.filter (!·.1.isParen) := by
    refine h.complete.subset (List.mem_append_right _ (List.mem_filter.mpr ⟨he, ?_⟩))
    simp [Token.isLeftParen, hkind]
  have hbefore := List.mem_zipIdx_iff_getElem?.mp (List.mem_filter.mp hmem).1
  rw [htokens, List.getElem?_append_left (h.read e he), hbefore]

/-- An operator lets nothing go below the first one that binds less tightly: that one would have let
it go already. -/
private theorem Tracks.letsGo_eq_false {e top : Token × Nat} {below : List (Token × Nat)}
    (h : Tracks tokens before state emitted (leaving ++ top :: below))
    (htokens : tokens = before ++ token :: after) (hkind : token.kind = .operator)
    (hleaving : ∀ e ∈ leaving, e.1.isLeftParen = false) (htop : yieldsTo token top.1 = false)
    (he : e ∈ top :: below) (hoperator : e.1.kind = .operator) :
    letsGo tokens e before.length = false := by
  refine Bool.eq_false_iff.mpr fun hgo => ?_
  have hnested : Nested tokens (top :: below) := h.nested.below
  obtain ⟨hgroups, hrelease⟩ := (letsGo_length htokens (h.read e (by simp [he]))).mp hgo
  have hbinds : token.precedence ≤ e.1.precedence := by simpa [hkind] using hrelease
  rw [h.opened, groupsOf_append hleaving] at hgroups
  rcases List.mem_cons.mp he with rfl | hbelow
  · simp [yieldsTo, Token.isOperator, hoperator, hbinds] at htop
  rcases h.kinds top (by simp) with hopening | htopKind
  · -- a group stands between the two
    have hle := hnested.2.2.length_groupsAround_le hbelow
    rw [← hgroups] at hle
    simp only [groupsOf, List.filter_cons, hopening, if_true, List.length_map,
      List.length_cons] at hle
    omega
  · have hless : top.1.precedence < token.precedence := by
      simpa [yieldsTo, Token.isOperator, htopKind] using htop
    have hsame : groupsAround tokens top.2 = groupsAround tokens e.2 := by
      rw [← hgroups, hnested.1]
      simp [groupsOf, Token.isLeftParen, htopKind]
    have hheld := h.held e (by simp [hbelow]) hoperator top.2 (h.read top (by simp))
    have hlookup := h.getElem?_eq htokens (by simp : top ∈ leaving ++ top :: below) htopKind
    have hle : top.1.precedence ≤ e.1.precedence := by omega
    simp [letsGo, hnested.2.1 e hbelow, hsame, hlookup, htopKind, hle] at hheld

/-- An operator lets those go that bind at least as tightly, down to the first one that does
not. -/
private theorem Tracks.stack (h : Tracks tokens before state emitted (leaving ++ staying))
    (htokens : tokens = before ++ token :: after) (hkind : token.kind = .operator)
    (hleaving : ∀ e ∈ leaving, yieldsTo token e.1 = true)
    (hstaying : ∀ e ∈ staying.head?, yieldsTo token e.1 = false) :
    Tracks tokens (before ++ [token])
      ((state.release (leaving.map Prod.fst) (token :: staying.map Prod.fst)).advance token)
      (leaving.reverse ++ emitted) ((token, before.length) :: staying) := by
  have hnone : ∀ e ∈ leaving, e.1.isLeftParen = false :=
    fun e he => isLeftParen_of_yieldsTo (hleaving e he)
  have htoken : token.isLeftParen = false := by simp [Token.isLeftParen, hkind]
  have hopened : openGroups before = groupsOf staying := by rw [h.opened, groupsOf_append hnone]
  have hnested : Nested tokens staying := h.nested.below
  have hread : ∀ e ∈ staying, e.2 < before.length := fun e he => h.read e (by simp [he])
  have hdue : ∀ e ∈ leaving, emissionTime tokens e = before.length := by
    intro e he
    have hmem : e ∈ leaving ++ staying := by simp [he]
    have hyields := hleaving e he
    simp only [yieldsTo, Token.isOperator, Bool.and_eq_true, decide_eq_true_eq] at hyields
    refine h.emissionTime_eq hmem hyields.1 ?_
    rw [letsGo_length htokens (h.read e hmem), h.nested.groupsAround_eq hnone he]
    exact ⟨hopened, Or.inr ⟨hkind, hyields.2⟩⟩
  have hstays : ∀ e ∈ staying, e.1.kind = .operator → letsGo tokens e before.length = false := by
    intro e he hoperator
    obtain ⟨top, below, rfl⟩ := List.exists_cons_of_ne_nil (List.ne_nil_of_mem he)
    exact h.letsGo_eq_false htokens hkind hnone (hstaying top rfl) he hoperator
  exact {
    emitted_eq := by simp [release, advance, h.emitted_eq]
    pending_eq := by simp [release, advance]
    complete := by
      rw [filter_zipIdx_concat (by simp [Token.isParen, hkind]),
        List.filter_cons_of_pos (by simp [htoken])]
      calc leaving.reverse ++ emitted ++
            (token, before.length) :: staying.filter (!·.1.isLeftParen)
          ~ (token, before.length) ::
              (leaving.reverse ++ emitted ++ staying.filter (!·.1.isLeftParen)) :=
            List.perm_middle
        _ ~ (token, before.length) :: (emitted ++ (leaving ++ staying).filter (!·.1.isLeftParen)) :=
            (release_perm _ fun e he => by simp [hnone e he]).cons _
        _ ~ (token, before.length) :: before.zipIdx.filter (!·.1.isParen) := h.complete.cons _
        _ ~ before.zipIdx.filter (!·.1.isParen) ++ [(token, before.length)] :=
            (List.perm_append_singleton _ _).symm
    ordered := ordered_release h (List.pairwise_append.mp h.nested.pairwise).1 hdue
    due := due_release h hdue
    kinds := List.forall_mem_cons.mpr ⟨Or.inr hkind, fun e he => h.kinds e (by simp [he])⟩
    read := List.forall_mem_cons.mpr ⟨by simp, fun e he => (hread e he).trans (by simp)⟩
    held := List.forall_mem_cons.mpr
      ⟨fun _ j hj => letsGo_of_le (by simpa [Nat.lt_succ_iff] using hj),
        held_concat (fun e he => h.held e (by simp [he])) hstays⟩
    nested := by
      refine ⟨?_, hread, hnested⟩
      rw [groupsAround, htokens, List.take_left, hopened]
    opened := by
      rw [openGroups_concat, hkind, hopened]
      simp [groupsOf, htoken] }

/-- Every move keeps the times. -/
theorem Tracks.moves (h : Tracks tokens before state emitted pending)
    (htokens : tokens = before ++ token :: after) (hmove : Moves state token next) :
    ∃ emitted' pending', Tracks tokens (before ++ [token]) next emitted' pending' := by
  cases hmove with
  | number hkind => exact ⟨_, _, h.emit htokens hkind⟩
  | opens hkind => exact ⟨_, _, h.openGroup htokens hkind⟩
  | closes hkind _ hpending hleaving hopening =>
      obtain ⟨leaving, rest, rfl, rfl, hrest⟩ :=
        List.map_eq_append_iff.mp (h.pending_eq.trans hpending)
      obtain ⟨opening, staying, rfl, rfl, rfl⟩ := List.map_eq_cons_iff.mp hrest
      refine ⟨_, _, h.closeGroup htokens hkind (fun e he => ?_) hopening⟩
      exact hleaving e.1 (List.mem_map_of_mem he)
  | waits hkind hpending hleaving hstaying =>
      obtain ⟨leaving, staying, rfl, rfl, rfl⟩ :=
        List.map_eq_append_iff.mp (h.pending_eq.trans hpending)
      refine ⟨_, _, h.stack htokens hkind (fun e he => ?_) (fun e he => ?_)⟩
      · exact hleaving e.1 (List.mem_map_of_mem he)
      · exact hstaying e.1 (by simp [Option.mem_def.mp he])

/-- **Every run keeps the times.** -/
theorem Tracks.run {last : Conversion} (h : Tracks tokens before state emitted pending)
    (htokens : tokens = before ++ after) (hrun : state.run after = .ok last) :
    ∃ emitted' pending', Tracks tokens tokens last emitted' pending' := by
  induction after generalizing before state emitted pending with
  | nil =>
      obtain rfl := Except.ok.inj hrun
      rw [List.append_nil] at htokens
      subst htokens
      exact ⟨emitted, pending, h⟩
  | cons token after ih =>
      obtain ⟨next, hmove, hrun⟩ := run_cons_eq_ok_iff.mp hrun
      obtain ⟨emitted', pending', hnext⟩ := h.moves htokens hmove
      exact ih hnext (by simp [htokens]) hrun

/-- At the end everything that waits is due, so that all is in order. -/
private theorem Tracks.pairwise (h : Tracks tokens tokens state emitted pending)
    (hnone : ∀ e ∈ pending, e.1.isLeftParen = false) :
    (emitted.reverse ++ pending).Pairwise (ComesBefore tokens) := by
  have hdue : ∀ e ∈ pending, emissionTime tokens e = tokens.length := by
    intro e he
    have hoperator : e.1.kind = .operator := (h.kinds e he).resolve_left (by simp [hnone e he])
    exact emissionTime_eq_length (by simp [hoperator]) (h.held e he hoperator)
  refine List.pairwise_append.mpr ⟨List.pairwise_reverse.mpr h.ordered, ?_, ?_⟩
  · refine h.nested.pairwise.imp_of_mem fun hupper hlower hlt => Or.inr ⟨?_, hlt⟩
    rw [hdue _ hupper, hdue _ hlower]
  · intro e he f hf
    refine Or.inl ?_
    rw [hdue f hf]
    exact h.due e (List.mem_reverse.mp he)

/-- At the end all tokens that are no parentheses were emitted or are due. -/
private theorem Tracks.perm (h : Tracks tokens tokens state emitted pending)
    (hnone : ∀ e ∈ pending, e.1.isLeftParen = false) :
    emitted.reverse ++ pending ~ tokens.zipIdx.filter (!·.1.isParen) := by
  have hall : pending.filter (!·.1.isLeftParen) = pending := by
    rw [List.filter_eq_self]
    intro e he
    simp [hnone e he]
  refine ((List.reverse_perm emitted).append_right pending).trans ?_
  simpa [hall] using h.complete

end Conversion

/-! ### Whole conversions -/

section

variable {tokens listing : List Token} {first second third : Token × Nat}

/-- Tokens with their indexes are listed by their indexes. -/
theorem pairwise_zipIdx (tokens : List Token) :
    tokens.zipIdx.Pairwise fun first second => first.2 < second.2 := by
  have hindexes : (tokens.zipIdx.map Prod.snd).Pairwise (· < ·) := by
    rw [List.zipIdx_map_snd]
    exact List.pairwise_lt_range'
  exact List.pairwise_map.mp hindexes

/-- The index tells which token it is. -/
private theorem eq_of_mem_zipIdx (hfirst : first ∈ tokens.zipIdx) (hsecond : second ∈ tokens.zipIdx)
    (hindex : first.2 = second.2) : first = second := by
  rw [List.mem_zipIdx_iff_getElem?] at hfirst hsecond
  rw [hindex, hsecond] at hfirst
  exact Prod.ext (Option.some.inj hfirst).symm hindex

/-- The emission order is ordered, apart from entries that are alike. -/
private theorem pairwise_emissionOrder (tokens : List Token) :
    (emissionOrder tokens).Pairwise fun first second => ¬ ComesBefore tokens second first := by
  have hsorted : (emissionOrder tokens).Pairwise fun first second =>
      (!decide (ComesBefore tokens second first)) = true := by
    refine List.pairwise_mergeSort (fun first second third hle hle' => ?_)
      (fun first second => ?_) _
    · rw [Bool.not_eq_true', decide_eq_false_iff_not, ComesBefore] at hle hle' ⊢
      omega
    · rw [Bool.or_eq_true, Bool.not_eq_true', Bool.not_eq_true', decide_eq_false_iff_not,
        decide_eq_false_iff_not, ComesBefore, ComesBefore]
      omega
  exact hsorted.imp fun hle => by simpa using hle

/-- The emission order has the tokens that are no parentheses. -/
theorem emissionOrder_perm (tokens : List Token) :
    emissionOrder tokens ~ tokens.zipIdx.filter (!·.1.isParen) := List.mergeSort_perm ..

/-- There is one order in which the tokens come one before another. -/
theorem eq_emissionOrder {order : List (Token × Nat)}
    (hperm : order ~ tokens.zipIdx.filter (!·.1.isParen))
    (hpairwise : order.Pairwise (ComesBefore tokens)) : order = emissionOrder tokens := by
  refine List.Perm.eq_of_pairwise ?_ ?_ (pairwise_emissionOrder tokens)
    (hperm.trans (emissionOrder_perm tokens).symm)
  · intro first second hfirst hsecond hle hge
    have hmem := (List.mem_filter.mp (hperm.subset hfirst)).1
    have hmem' := (List.mem_filter.mp ((emissionOrder_perm tokens).subset hsecond)).1
    refine eq_of_mem_zipIdx hmem hmem' ?_
    simp only [ComesBefore] at hle hge
    omega
  · refine hpairwise.imp fun hbefore => ?_
    simp only [ComesBefore] at hbefore ⊢
    omega

/-- A conversion emits the tokens one before another. -/
theorem exists_order (h : toPostfix tokens = .ok listing) :
    ∃ order : List (Token × Nat), order.map Prod.fst = listing ∧
      order ~ tokens.zipIdx.filter (!·.1.isParen) ∧ order.Pairwise (ComesBefore tokens) := by
  obtain ⟨last, hrun, hfinish⟩ := toPostfix_eq_ok_iff.mp h
  obtain ⟨emitted, pending, htracks⟩ := (Conversion.tracks_start tokens).run rfl hrun
  obtain ⟨hnone, rfl⟩ := Conversion.finish_eq_ok_iff.mp hfinish
  have hnone' : ∀ e ∈ pending, e.1.isLeftParen = false := fun e he =>
    hnone e.1 (htracks.pending_eq ▸ List.mem_map_of_mem he)
  refine ⟨emitted.reverse ++ pending, ?_, htracks.perm hnone', htracks.pairwise hnone'⟩
  simp [← htracks.emitted_eq, ← htracks.pending_eq]

/-- Numbers that come one before another were read in this order. -/
private theorem filter_number_eq {order : List (Token × Nat)}
    (hperm : order ~ tokens.zipIdx.filter (!·.1.isParen))
    (hpairwise : order.Pairwise (ComesBefore tokens)) :
    order.filter (·.1.kind = .number) = tokens.zipIdx.filter (·.1.kind = .number) := by
  have hnumbers : order.filter (·.1.kind = .number) ~
      tokens.zipIdx.filter (·.1.kind = .number) := by
    refine (hperm.filter _).trans (List.Perm.of_eq ?_)
    rw [List.filter_filter]
    refine List.filter_congr fun e _ => ?_
    cases hkind : e.1.kind <;> simp [Token.isParen, hkind]
  refine List.Perm.eq_of_pairwise (fun first second _ _ hlt hgt => ?_) ?_
    ((pairwise_zipIdx tokens).filter _) hnumbers
  · omega
  · refine List.Pairwise.imp_of_mem (fun hfirst hsecond hbefore => ?_) (hpairwise.filter _)
    rw [ComesBefore, emissionTime_number (by simpa using (List.mem_filter.mp hfirst).2),
      emissionTime_number (by simpa using (List.mem_filter.mp hsecond).2)] at hbefore
    omega

/-- An operator comes before a number only if it was read before it. -/
private theorem pairwise_operator_number {order : List (Token × Nat)}
    (hperm : order ~ tokens.zipIdx.filter (!·.1.isParen))
    (hpairwise : order.Pairwise (ComesBefore tokens)) :
    order.Pairwise fun first second =>
      first.1.kind = .operator → second.1.kind = .number → first.2 < second.2 := by
  refine hpairwise.imp_of_mem fun {first second} hfirst _ hbefore hoperator hnumber => ?_
  have hmem := (List.mem_filter.mp (hperm.subset hfirst)).1
  have hlength := (List.mem_zipIdx hmem).2.1
  have hlater : first.2 < emissionTime tokens first :=
    lt_emissionTime (by simp [hoperator]) (by omega)
  rw [ComesBefore, emissionTime_number hnumber] at hbefore
  omega

/-- **A list is converted to its order of emission**: its tokens without the parentheses, sorted by
the times at which they are due, the last one first where these are equal. So no token is lost, the
numbers stay in order, and no operator passes a number that was read before it. -/
theorem toPostfix_eq_emissionOrder (h : toPostfix tokens = .ok listing) :
    listing = (emissionOrder tokens).map Prod.fst ∧
      emissionOrder tokens ~ tokens.zipIdx.filter (!·.1.isParen) ∧
      (emissionOrder tokens).Pairwise (ComesBefore tokens) ∧
      listing ~ tokens.filter (!·.isParen) ∧
      listing.filter (·.kind = .number) = tokens.filter (·.kind = .number) ∧
      (emissionOrder tokens).Pairwise fun first second =>
        first.1.kind = .operator → second.1.kind = .number → first.2 < second.2 := by
  obtain ⟨order, horder, hperm, hpairwise⟩ := exists_order h
  have hlisting := toPostfix_perm h
  obtain rfl := eq_emissionOrder hperm hpairwise
  subst horder
  refine ⟨rfl, hperm, hpairwise, hlisting, ?_, pairwise_operator_number hperm hpairwise⟩
  calc ((emissionOrder tokens).map Prod.fst).filter (·.kind = .number)
      = ((emissionOrder tokens).filter (·.1.kind = .number)).map Prod.fst := List.filter_map
    _ = (tokens.zipIdx.filter (·.1.kind = .number)).map Prod.fst := by
        rw [filter_number_eq hperm hpairwise]
    _ = (tokens.zipIdx.map Prod.fst).filter (·.kind = .number) := by
        rw [List.filter_map]
        rfl
    _ = tokens.filter (·.kind = .number) := by rw [List.zipIdx_map_fst]

/-- The list `- 2 ( * 3 + 4 ) 5 ^ +` is no expression, and is converted all the same: its operators
are due at 10, 5, 7, 10 and 11. -/
theorem toPostfix_eq_emissionOrder_scattered :
    let number (text : String) : Token := { kind := .number, text }
    let sign (o : Operator) : Token := { kind := .operator, text := o.symbol }
    let opening : Token := { kind := .leftParen, text := "(" }
    let closing : Token := { kind := .rightParen, text := ")" }
    let tokens : List Token :=
      [sign .minus, number "2", opening, sign .times, number "3", sign .plus, number "4", closing,
        number "5", sign .power, sign .plus]
    let listing : List Token :=
      [number "2", number "3", sign .times, number "4", sign .plus, number "5", sign .power,
        sign .minus, sign .plus]
    toPostfix tokens = .ok listing ∧ listing = (emissionOrder tokens).map Prod.fst := by
  intro number sign opening closing tokens listing
  have hlisting : toPostfix tokens = .ok listing := by rfl
  exact ⟨hlisting, (toPostfix_eq_emissionOrder hlisting).1⟩

end

end Calculator
