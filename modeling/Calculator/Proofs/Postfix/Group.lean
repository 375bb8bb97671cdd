import Calculator.Proofs.Postfix.Balance

/-!
# Groups and their contexts

The tokens of a group are converted on the same stack as everything around it, and yet neither can
look into the other. Inside, nothing below the opening parenthesis can leave, since no operator
passes a parenthesis; behind the closing one, nothing of the group is left waiting. So a group does
to its context what a single number does, except that it gives out its own listing instead.

## Main definitions

* `Conversion.OnTop`: a state that is another one on top of what it found.
* `Conversion.Differs`: two states that differ in a part of what they have emitted.
* `Gives`: tokens that every state reads and that leave nothing behind.

## Main results

* `Conversion.OnTop.run`: a run on top of an opening parenthesis is the run alone.
* `gives_number`, `gives_group`: numbers and groups give out their own listings.
* `Gives.exchange`: what gives out a listing can stand for anything that gives out one.
* `toPostfix_wrap_iff`: further parentheses around a group change nothing.
* `toPostfix_group`: **a group is opaque to its context**.
-/

open scoped List

namespace Calculator

namespace Conversion

variable {state next deep last alone : Conversion} {token : Token} {tokens : List Token}

/-! ### On top of an opening parenthesis -/

/-- The state `deep` is the state `alone` on top of what had been emitted and what waited before. -/
structure OnTop (emitted pending : List Token) (alone deep : Conversion) : Prop where
  /-- What was emitted before is below. -/
  emitted_eq : deep.emitted = alone.emitted ++ emitted
  /-- What waited before is below. -/
  pending_eq : deep.pending = alone.pending ++ pending
  /-- The token right before is the same, unless `alone` has read nothing. -/
  previous_eq : deep.previous = alone.previous ∨ alone.previous = none ∧ alone.pending = []

section

variable {emitted pending : List Token}

/-- An operator passes no opening parenthesis. -/
private theorem yieldsTo_eq_false_of_head? {staying : List Token}
    (hpending : ∀ t ∈ pending.head?, t.isLeftParen = true)
    (hstaying : ∀ t ∈ staying.head?, yieldsTo token t = false) :
    ∀ t ∈ (staying ++ pending).head?, yieldsTo token t = false := by
  intro t ht
  rcases staying with - | ⟨top, below⟩
  · refine Bool.eq_false_iff.mpr fun hyields => ?_
    have hleft := hpending t ht
    rw [isLeftParen_of_yieldsTo hyields] at hleft
    contradiction
  · exact hstaying t ht

/-- A move on top of an opening parenthesis is the move alone. -/
theorem OnTop.moves (h : OnTop emitted pending alone deep)
    (hpending : ∀ t ∈ pending.head?, t.isLeftParen = true) (hmove : Moves alone token next) :
    ∃ deeper, Moves deep token deeper ∧ OnTop emitted pending next deeper := by
  cases hmove with
  | number hkind =>
      refine ⟨_, .number hkind, ?_, h.pending_eq, Or.inl rfl⟩
      simp [emit, advance, h.emitted_eq]
  | opens hkind =>
      refine ⟨_, .opens hkind, h.emitted_eq, ?_, Or.inl rfl⟩
      simp [openGroup, advance, h.pending_eq]
  | @closes hkind leaving staying opening hprevious halone hleaving hopening =>
      -- there is an opening parenthesis to close, so `alone` has read something
      have hsame : deep.previous = alone.previous :=
        h.previous_eq.resolve_right fun hnone => by simp [hnone.2] at halone
      have hdeep : deep.pending = leaving ++ opening :: (staying ++ pending) := by
        simp [h.pending_eq, halone]
      refine ⟨_, .closes hkind (hsame ▸ hprevious) hdeep hleaving hopening, ?_, rfl, Or.inl rfl⟩
      simp [release, advance, h.emitted_eq]
  | @waits hkind leaving staying halone hleaving hstaying =>
      have hdeep : deep.pending = leaving ++ (staying ++ pending) := by
        simp [h.pending_eq, halone]
      refine ⟨_, .waits hkind hdeep hleaving (yieldsTo_eq_false_of_head? hpending hstaying), ?_,
        rfl, Or.inl rfl⟩
      simp [release, advance, h.emitted_eq]

/-- **A run on top of an opening parenthesis is the run alone.** -/
theorem OnTop.run (h : OnTop emitted pending alone deep)
    (hpending : ∀ t ∈ pending.head?, t.isLeftParen = true) (hrun : alone.run tokens = .ok last) :
    ∃ deeper, deep.run tokens = .ok deeper ∧ OnTop emitted pending last deeper := by
  induction tokens generalizing alone deep with
  | nil =>
      obtain rfl := Except.ok.inj hrun
      exact ⟨deep, rfl, h⟩
  | cons token rest ih =>
      obtain ⟨next, hmove, hrest⟩ := run_cons_eq_ok_iff.mp hrun
      obtain ⟨deeper, hdeeper, hnext⟩ := h.moves hpending hmove
      obtain ⟨deepest, hdeepest, hlast⟩ := ih hnext hrest
      exact ⟨deepest, run_cons_eq_ok_iff.mpr ⟨deeper, hdeeper, hdeepest⟩, hlast⟩

end

/-! ### States that differ in what was emitted -/

/-- Two states that have emitted the same on top of `first` and of `second`, and are alike in
everything that a step looks at. -/
structure Differs (first second : List Token) (s t : Conversion) : Prop where
  /-- What was emitted later is the same. -/
  emitted : ∃ later, s.emitted = later ++ first ∧ t.emitted = later ++ second
  /-- The same tokens wait. -/
  pending_eq : t.pending = s.pending
  /-- Both are right behind an opening parenthesis, or neither is. -/
  previous_eq : t.previous.any Token.isLeftParen = s.previous.any Token.isLeftParen

section

variable {first second : List Token} {s s' t : Conversion}

/-- The same move can be made in both states. -/
theorem Differs.moves (h : Differs first second s t) (hmove : Moves s token s') :
    ∃ t', Moves t token t' ∧ Differs first second s' t' := by
  obtain ⟨later, hs, ht⟩ := h.emitted
  cases hmove with
  | number hkind =>
      refine ⟨_, .number hkind, ⟨token :: later, ?_, ?_⟩, h.pending_eq, rfl⟩
      · simp [emit, advance, hs]
      · simp [emit, advance, ht]
  | opens hkind =>
      refine ⟨_, .opens hkind, ⟨later, hs, ht⟩, ?_, rfl⟩
      simp [openGroup, advance, h.pending_eq]
  | @closes hkind leaving staying opening hprevious hpending hleaving hopening =>
      refine ⟨_, .closes hkind (h.previous_eq.trans hprevious) (h.pending_eq.trans hpending)
        hleaving hopening, ⟨leaving.reverse ++ later, ?_, ?_⟩, rfl, rfl⟩
      · simp [release, advance, hs]
      · simp [release, advance, ht]
  | @waits hkind leaving staying hpending hleaving hstaying =>
      refine ⟨_, .waits hkind (h.pending_eq.trans hpending) hleaving hstaying,
        ⟨leaving.reverse ++ later, ?_, ?_⟩, rfl, rfl⟩
      · simp [release, advance, hs]
      · simp [release, advance, ht]

/-- The same tokens are read in both states. -/
theorem Differs.run (h : Differs first second s t) (hrun : s.run tokens = .ok s') :
    ∃ t', t.run tokens = .ok t' ∧ Differs first second s' t' := by
  induction tokens generalizing s t with
  | nil =>
      obtain rfl := Except.ok.inj hrun
      exact ⟨t, rfl, h⟩
  | cons token rest ih =>
      obtain ⟨next, hmove, hrest⟩ := run_cons_eq_ok_iff.mp hrun
      obtain ⟨next', hmove', hnext⟩ := h.moves hmove
      obtain ⟨t', ht', hlast⟩ := ih hnext hrest
      exact ⟨t', run_cons_eq_ok_iff.mpr ⟨next', hmove', ht'⟩, hlast⟩

/-- At the end the listings differ where the states do. -/
theorem Differs.finish {listing : List Token} (h : Differs first second s t)
    (hfinish : s.finish = .ok listing) :
    ∃ later, listing = first.reverse ++ later ∧ t.finish = .ok (second.reverse ++ later) := by
  obtain ⟨later, hs, ht⟩ := h.emitted
  obtain ⟨hnone, rfl⟩ := finish_eq_ok_iff.mp hfinish
  refine ⟨later.reverse ++ s.pending, by simp [hs], finish_eq_ok_iff.mpr ⟨?_, ?_⟩⟩
  · rwa [h.pending_eq]
  · simp [ht, h.pending_eq]

end

end Conversion

/-! ### Tokens that leave nothing behind -/

/-- The tokens are read in every state, they give out `given`, and what waited before them waits
behind them. -/
def Gives (tokens given : List Token) : Prop :=
  ∀ state : Conversion, ∃ next, state.run tokens = .ok next ∧
    next.emitted = given.reverse ++ state.emitted ∧ next.pending = state.pending ∧
    next.previous.any Token.isLeftParen = false

section

variable {before after group inner first second listing : List Token}
variable {opening closing outerOpening outerClosing number : Token}

/-- A number gives out itself. -/
theorem gives_number (hnumber : number.kind = .number) : Gives [number] [number] := by
  intro state
  refine ⟨(state.emit number).advance number, ?_, rfl, rfl, ?_⟩
  · exact Conversion.run_cons_eq_ok_iff.mpr ⟨_, .number hnumber, rfl⟩
  · simp [Conversion.advance, Token.isLeftParen, hnumber]

/-- The last token of a list that is converted opens no group. -/
private theorem previous_of_finish {last : Conversion}
    (hrun : Conversion.run {} group = .ok last) (hfinish : last.finish = .ok inner) :
    last.previous = group.getLast? ∧ last.previous.any Token.isLeftParen = false := by
  have hplaced := (balanced_iff.mp (balanced_of_toPostfix
    (toPostfix_eq_ok_iff.mpr ⟨last, hrun, hfinish⟩))).1
  obtain ⟨last', hrun', hremembers⟩ := Conversion.run_of_placed hplaced
  obtain rfl := Except.ok.inj (hrun.symm.trans hrun')
  obtain ⟨hnone, -⟩ := Conversion.finish_eq_ok_iff.mp hfinish
  have hdepth : last.depth = 0 := by
    rw [Conversion.depth, List.countP_eq_zero]
    simpa using hnone
  exact ⟨hremembers.previous,
    Bool.eq_false_iff.mpr fun hleft => hremembers.inside hleft hdepth⟩

/-- **A group gives out the listing of what is in it.** -/
theorem gives_group (hopening : opening.kind = .leftParen) (hclosing : closing.kind = .rightParen)
    (hgroup : toPostfix group = .ok inner) (hne : group ≠ []) :
    Gives (opening :: (group ++ [closing])) inner := by
  intro state
  obtain ⟨last, hrun, hfinish⟩ := toPostfix_eq_ok_iff.mp hgroup
  obtain ⟨hlast, hprevious⟩ := previous_of_finish hrun hfinish
  obtain ⟨hnone, rfl⟩ := Conversion.finish_eq_ok_iff.mp hfinish
  have hleft : opening.isLeftParen = true := by simp [Token.isLeftParen, hopening]
  have hstart : Conversion.OnTop state.emitted (opening :: state.pending) {}
      ((state.openGroup opening).advance opening) := ⟨rfl, rfl, Or.inr ⟨rfl, rfl⟩⟩
  obtain ⟨deep, hdeep, honTop⟩ := hstart.run (by simpa using hleft) hrun
  have hsame : deep.previous = last.previous := by
    refine honTop.previous_eq.resolve_right fun hempty => hne ?_
    exact List.getLast?_eq_none_iff.mp (hlast.symm.trans hempty.1)
  have hmove : Conversion.Moves deep closing
      ((deep.release last.pending state.pending).advance closing) :=
    .closes hclosing (hsame ▸ hprevious) honTop.pending_eq hnone hleft
  refine ⟨(deep.release last.pending state.pending).advance closing, ?_, ?_, rfl, ?_⟩
  · refine Conversion.run_cons_eq_ok_iff.mpr ⟨_, .opens hopening, ?_⟩
    rw [Conversion.run_append, hdeep]
    exact Conversion.run_cons_eq_ok_iff.mpr ⟨_, hmove, rfl⟩
  · simp [Conversion.release, Conversion.advance, honTop.emitted_eq]
  · simp [Conversion.advance, Token.isLeftParen, hclosing]

/-- What gives out a listing is converted to it. -/
theorem Gives.toPostfix_eq (h : Gives group inner) : toPostfix group = .ok inner := by
  obtain ⟨last, hrun, hemitted, hpending, -⟩ := h {}
  refine toPostfix_eq_ok_iff.mpr ⟨last, hrun, Conversion.finish_eq_ok_iff.mpr ⟨?_, ?_⟩⟩
  · simp [hpending]
  · simp [hpending, hemitted]

/-- **What gives out a listing can stand for anything that gives out one**: the conversion of the
whole list then differs in that listing only. -/
theorem Gives.exchange {segment segment' given given' : List Token} (h : Gives segment given)
    (h' : Gives segment' given')
    (hlisting : toPostfix (before ++ (segment ++ after)) = .ok listing) :
    ∃ first second, listing = first ++ given ++ second ∧
      toPostfix (before ++ (segment' ++ after)) = .ok (first ++ given' ++ second) := by
  obtain ⟨last, hrun, hfinish⟩ := toPostfix_eq_ok_iff.mp hlisting
  rw [Conversion.run_append] at hrun
  cases hbefore : Conversion.run {} before with
  | error defect => simp [hbefore, Except.bind] at hrun
  | ok state =>
      obtain ⟨s, hs, hemitted, hpending, hprevious⟩ := h state
      obtain ⟨t, ht, hemitted', hpending', hprevious'⟩ := h' state
      have hdiffers : Conversion.Differs (given.reverse ++ state.emitted)
          (given'.reverse ++ state.emitted) s t :=
        ⟨⟨[], hemitted, hemitted'⟩, hpending'.trans hpending.symm,
          hprevious'.trans hprevious.symm⟩
      simp only [hbefore, Except.bind, Conversion.run_append, hs] at hrun
      obtain ⟨last', hrun', hlast⟩ := hdiffers.run hrun
      obtain ⟨later, rfl, hfinish'⟩ := hlast.finish hfinish
      refine ⟨state.emitted.reverse, later, by simp, toPostfix_eq_ok_iff.mpr ⟨last', ?_, ?_⟩⟩
      · simp only [Conversion.run_append, hbefore, Except.bind, ht, hrun']
      · simpa using hfinish'

/-! ### Groups within a list -/

/-- A beginning of tokens that close `depth` groups and their own ones closes no more than these,
and leaves the rest of them to the other tokens. -/
private theorem Closes.counts {depth : Nat} (h : Closes depth (before ++ after)) :
    closings before ≤ depth + openings before ∧
      Closes (depth + openings before - closings before) after := by
  induction before generalizing depth with
  | nil => exact ⟨Nat.zero_le _, h⟩
  | cons token before ih =>
      rw [show openings (token :: before) = _ from openings_append [token] before,
        show closings (token :: before) = _ from closings_append [token] before]
      cases hkind : token.kind with
      | number | operator =>
          simp only [List.cons_append, Closes, hkind] at h
          simpa [openings, closings, hkind] using ih h
      | leftParen =>
          simp only [List.cons_append, Closes, hkind] at h
          simpa [openings, closings, hkind, Nat.add_assoc] using ih h
      | rightParen =>
          simp only [List.cons_append, Closes, hkind] at h
          obtain ⟨outer, rfl, hrest⟩ := h
          obtain ⟨hle, hafter⟩ := ih hrest
          have hopening : openings [token] = 0 := by simp [openings, hkind]
          have hclosing : closings [token] = 1 := by simp [closings, hkind]
          rw [hopening, hclosing]
          refine ⟨by omega, ?_⟩
          rwa [show outer + 1 + (0 + openings before) - (1 + closings before) =
            outer + openings before - closings before by omega]

/-- What is in a group of a balanced list is balanced, and there is something in it. -/
private theorem Balanced.enclosed (hopening : opening.kind = .leftParen)
    (hclosing : closing.kind = .rightParen) (hcloses : Closes 0 group)
    (h : Balanced (before ++ opening :: (group ++ closing :: after))) :
    group ≠ [] ∧ Balanced group := by
  have hkindAt (p : Nat) (hp : p < group.length) :
      kindAt (before ++ opening :: (group ++ closing :: after)) (before.length + 1 + p) =
        kindAt group p := by
    rw [kindAt, kindAt, List.getElem?_append_right (by omega),
      show before.length + 1 + p - before.length = p + 1 by omega, List.getElem?_cons_succ,
      List.getElem?_append_left hp]
  refine ⟨?_, ?_, ?_, ?_⟩
  · rintro rfl
    refine h.filled before.length ?_ ?_
    · rw [kindAt_length, hopening]
    · simp [kindAt, hclosing]
  · rintro inside ⟨rest, rfl⟩
    simpa using hcloses.counts.1
  · have hall := @Closes.counts group [] 0 (by simpa using hcloses)
    simp only [Closes] at hall
    omega
  · intro p hleft hright
    have hp := lt_of_kindAt hright
    refine h.filled (before.length + 1 + p) ?_ ?_
    · rw [hkindAt p (by omega), hleft]
    · rw [Nat.add_assoc, hkindAt (p + 1) hp, hright]

/-- What is in a group of a list that is converted is converted, and there is something in it. -/
private theorem exists_inner (hopening : opening.kind = .leftParen)
    (hclosing : closing.kind = .rightParen) (hcloses : Closes 0 group)
    (h : toPostfix (before ++ opening :: group ++ closing :: after) = .ok listing) :
    group ≠ [] ∧ ∃ inner, toPostfix group = .ok inner := by
  have hbalanced := balanced_of_toPostfix h
  rw [List.append_assoc, List.cons_append] at hbalanced
  obtain ⟨hne, hgroup⟩ := hbalanced.enclosed hopening hclosing hcloses
  exact ⟨hne, exists_toPostfix_of_balanced hgroup⟩

/-- **Further parentheses around a group change nothing**, whatever stands around them. -/
theorem toPostfix_wrap_iff (hopening : opening.kind = .leftParen)
    (hclosing : closing.kind = .rightParen) (houterOpening : outerOpening.kind = .leftParen)
    (houterClosing : outerClosing.kind = .rightParen) (hcloses : Closes 0 group) :
    toPostfix (before ++ outerOpening :: opening :: group ++ closing :: outerClosing :: after) =
        .ok listing ↔
      toPostfix (before ++ opening :: group ++ closing :: after) = .ok listing := by
  -- both are what gives out the same listing, as soon as one of them is converted
  have hgives (hinner : group ≠ [] ∧ ∃ inner, toPostfix group = .ok inner) :
      ∃ inner, Gives (opening :: (group ++ [closing])) inner ∧
        Gives (outerOpening :: (opening :: (group ++ [closing]) ++ [outerClosing])) inner := by
    obtain ⟨hne, inner, hgroup⟩ := hinner
    have hsingle := gives_group hopening hclosing hgroup hne
    exact ⟨inner, hsingle, gives_group houterOpening houterClosing hsingle.toPostfix_eq (by simp)⟩
  constructor
  · intro h
    have h' : toPostfix ((before ++ [outerOpening]) ++ opening :: group ++
        closing :: outerClosing :: after) = .ok listing := by simpa using h
    obtain ⟨inner, hsingle, hdouble⟩ := hgives (exists_inner hopening hclosing hcloses h')
    have hsegment : toPostfix (before ++ ((outerOpening ::
        (opening :: (group ++ [closing]) ++ [outerClosing])) ++ after)) = .ok listing := by
      simpa using h
    obtain ⟨first, second, rfl, hlisting⟩ := hdouble.exchange hsingle hsegment
    simpa using hlisting
  · intro h
    obtain ⟨inner, hsingle, hdouble⟩ := hgives (exists_inner hopening hclosing hcloses h)
    have hsegment : toPostfix (before ++ ((opening :: (group ++ [closing])) ++ after)) =
        .ok listing := by
      simpa using h
    obtain ⟨first, second, rfl, hlisting⟩ := hsingle.exchange hdouble hsegment
    simpa using hlisting

/-- A number that is read once is given out once. -/
private theorem not_mem_of_toPostfix (hnumber : number.kind = .number) (hbefore : number ∉ before)
    (hafter : number ∉ after)
    (h : toPostfix (before ++ number :: after) = .ok (first ++ number :: second)) :
    number ∉ first ∧ number ∉ second := by
  have hperm : first ++ second ~ before.filter (!·.isParen) ++ after.filter (!·.isParen) := by
    have hlisting := toPostfix_perm h
    simp only [List.filter_append, List.filter_cons, Token.isParen, hnumber, reduceCtorEq,
      decide_false, Bool.or_false, Bool.not_false, if_true] at hlisting
    exact (List.perm_middle.symm.trans (hlisting.trans List.perm_middle)).cons_inv
  have hnone : number ∉ first ++ second := fun hmem => by
    rcases List.mem_append.mp (hperm.subset hmem) with hmem | hmem
    · exact hbefore (List.mem_filter.mp hmem).1
    · exact hafter (List.mem_filter.mp hmem).1
  simpa using hnone

/-- **A group is opaque to its context.** Let a list be converted to something. In parentheses it
can stand in any other list for a number, and the conversion of that list is the same, with the
listing of the group in the place of the number: the tokens of the group stay together. Parentheses
around the whole list change nothing, and no more do further ones around any group. -/
theorem toPostfix_group (hopening : opening.kind = .leftParen)
    (hclosing : closing.kind = .rightParen) (houterOpening : outerOpening.kind = .leftParen)
    (houterClosing : outerClosing.kind = .rightParen) (hnumber : number.kind = .number)
    (hbefore : number ∉ before) (hafter : number ∉ after) (hgroup : toPostfix group = .ok inner)
    (hne : group ≠ []) :
    ((∃ listing, toPostfix (before ++ opening :: group ++ closing :: after) = .ok listing) ↔
      ∃ listing, toPostfix (before ++ number :: after) = .ok listing) ∧
    (∀ listing, toPostfix (before ++ number :: after) = .ok listing →
      ∃ first second, listing = first ++ number :: second ∧ number ∉ first ∧ number ∉ second ∧
        toPostfix (before ++ opening :: group ++ closing :: after) =
          .ok (first ++ inner ++ second)) ∧
    inner ~ group.filter (!·.isParen) ∧
    toPostfix (opening :: group ++ [closing]) = .ok inner ∧
    ∀ left inside right listing, Closes 0 inside →
      (toPostfix (left ++ outerOpening :: opening :: inside ++ closing :: outerClosing :: right) =
          .ok listing ↔
        toPostfix (left ++ opening :: inside ++ closing :: right) = .ok listing) := by
  have hgives := gives_group hopening hclosing hgroup hne
  have hexchange (listing : List Token)
      (hlisting : toPostfix (before ++ number :: after) = .ok listing) :
      ∃ first second, listing = first ++ number :: second ∧ number ∉ first ∧ number ∉ second ∧
        toPostfix (before ++ opening :: group ++ closing :: after) =
          .ok (first ++ inner ++ second) := by
    obtain ⟨first, second, rfl, hgrouped⟩ := (gives_number hnumber).exchange hgives hlisting
    rw [List.append_assoc, List.singleton_append] at hlisting ⊢
    obtain ⟨hfirst, hsecond⟩ := not_mem_of_toPostfix hnumber hbefore hafter hlisting
    exact ⟨first, second, rfl, hfirst, hsecond, by simpa using hgrouped⟩
  refine ⟨⟨?_, ?_⟩, hexchange, toPostfix_perm hgroup, hgives.toPostfix_eq, ?_⟩
  · rintro ⟨listing, hlisting⟩
    have hsegment : toPostfix (before ++ ((opening :: (group ++ [closing])) ++ after)) =
        .ok listing := by
      simpa using hlisting
    obtain ⟨first, second, -, hsingle⟩ := hgives.exchange (gives_number hnumber) hsegment
    exact ⟨_, hsingle⟩
  · rintro ⟨listing, hlisting⟩
    obtain ⟨first, second, -, -, -, hgrouped⟩ := hexchange listing hlisting
    exact ⟨_, hgrouped⟩
  · exact fun left inside right listing hcloses =>
      toPostfix_wrap_iff hopening hclosing houterOpening houterClosing hcloses

/-- In the place of the number `1` in `- 2 ( ^ 1 * 5 )`, which is no expression, the group
`( 3 + 4 * )` gives out its own listing. -/
theorem toPostfix_group_scattered :
    let number (text : String) : Token := { kind := .number, text }
    let sign (o : Operator) : Token := { kind := .operator, text := o.symbol }
    let opening : Token := { kind := .leftParen, text := "(" }
    let closing : Token := { kind := .rightParen, text := ")" }
    let before : List Token := [sign .minus, number "2", opening, sign .power]
    let group : List Token := [number "3", sign .plus, number "4", sign .times]
    let after : List Token := [sign .times, number "5", closing]
    toPostfix (before ++ number "1" :: after) =
        .ok [number "2", number "1", sign .power, number "5", sign .times, sign .minus] ∧
      toPostfix (before ++ opening :: group ++ closing :: after) =
        .ok [number "2", number "3", number "4", sign .times, sign .plus, sign .power, number "5",
          sign .times, sign .minus] := by
  intro number sign opening closing before group after
  have hsingle : toPostfix (before ++ number "1" :: after) =
      .ok [number "2", number "1", sign .power, number "5", sign .times, sign .minus] := by rfl
  have hgroup : toPostfix group = .ok [number "3", number "4", sign .times, sign .plus] := by rfl
  have hbefore : number "1" ∉ before := by simp [before, number, sign, opening]
  have hafter : number "1" ∉ after := by simp [after, number, sign, closing]
  have hopening : opening.kind = .leftParen := rfl
  have hclosing : closing.kind = .rightParen := rfl
  obtain ⟨-, hexchange, -⟩ := toPostfix_group hopening hclosing hopening hclosing rfl hbefore
    hafter hgroup (by simp [group])
  obtain ⟨first, second, hlisting, hfirst, -, hgrouped⟩ := hexchange _ hsingle
  obtain ⟨rfl, rfl⟩ : first = [number "2"] ∧
      second = [sign .power, number "5", sign .times, sign .minus] := by
    rcases first with - | ⟨a, - | ⟨b, rest⟩⟩
    · simp [number] at hlisting
    · simpa [eq_comm] using hlisting
    · simp only [List.cons_append, List.cons.injEq] at hlisting
      simp [← hlisting.2.1] at hfirst
  exact ⟨hsingle, hgrouped⟩

end

end Calculator
