import Calculator.Postfix.Conversion
import Mathlib.Data.List.TakeDrop
import Mathlib.Data.List.TakeWhile

/-!
# The shunting yard

What one token does to the state of a conversion, as a relation with one case for each kind of
token, and what every conversion keeps from it: no token is lost or made up, and parentheses are
closed one by one.

## Main definitions

* `Conversion.release`: waiting tokens leave, the topmost first.
* `Conversion.Moves`: what one token may do to a state.
* `Conversion.held`: the tokens that a state has still to give out.
* `Conversion.depth`: the number of open groups.
* `openings`, `closings`: the parentheses of each kind among tokens.
* `Closes`: tokens that close a number of open groups and every group of their own.

## Main results

* `Conversion.step_eq_ok_iff`: the relation is what `Conversion.step` computes.
* `toPostfix_perm`: **a conversion gives out the tokens that are no parentheses**, each as often as
  it was read.
* `Conversion.depth_add_of_run`: the depth counts the parentheses that were read.
* `toPostfix_closes`: a list that is converted closes all its groups.
* `Closes.exists_split`: every open group ends at a closing parenthesis of its own.
* `toPostfix_ne_nil`: something is given out unless nothing was read.
-/

open scoped List

namespace Calculator

/-- Whether a token is a parenthesis. -/
def Token.isParen (token : Token) : Bool := token.kind = .leftParen || token.kind = .rightParen

/-- The number of opening parentheses. -/
def openings (tokens : List Token) : Nat := tokens.countP (·.kind = .leftParen)

/-- The number of closing parentheses. -/
def closings (tokens : List Token) : Nat := tokens.countP (·.kind = .rightParen)

/-- Opening parentheses are counted one list after the other. -/
theorem openings_append (first second : List Token) :
    openings (first ++ second) = openings first + openings second :=
  List.countP_append

/-- Closing parentheses are counted one list after the other. -/
theorem closings_append (first second : List Token) :
    closings (first ++ second) = closings first + closings second :=
  List.countP_append

namespace Conversion

/-! ### Splitting the waiting tokens -/

/-- The tokens on top of which `p` holds, cut off where it fails first. -/
theorem exists_span {α : Type} (p : α → Bool) (l : List α) :
    ∃ leaving staying, l.span p = (leaving, staying) ∧ l = leaving ++ staying ∧
      (∀ a ∈ leaving, p a = true) ∧ ∀ a ∈ staying.head?, p a = false := by
  refine ⟨l.takeWhile p, l.dropWhile p, List.span_eq_takeWhile_dropWhile .., ?_, ?_, ?_⟩
  · exact List.takeWhile_append_dropWhile.symm
  · exact fun a ha => List.mem_takeWhile_imp ha
  · intro a ha
    have hnot := List.head?_dropWhile_not p l
    rw [Option.mem_def.mp ha] at hnot
    simpa using hnot

/-- Where to cut is determined by `p`. -/
private theorem span_append {α : Type} {p : α → Bool} {leaving staying : List α}
    (hleaving : ∀ a ∈ leaving, p a = true) (hstaying : ∀ a ∈ staying.head?, p a = false) :
    (leaving ++ staying).span p = (leaving, staying) := by
  have htake : staying.takeWhile p = [] := by
    cases staying with
    | nil => rfl
    | cons a rest => simp [hstaying a rfl]
  have hdrop : staying.dropWhile p = staying := by
    cases staying with
    | nil => rfl
    | cons a rest => simp [hstaying a rfl]
  rw [List.span_eq_takeWhile_dropWhile, List.takeWhile_append_of_pos hleaving,
    List.dropWhile_append_of_pos hleaving, htake, hdrop, List.append_nil]

/-- Let the tokens `leaving` go, the first one first, so that `staying` wait. -/
def release (state : Conversion) (leaving staying : List Token) : Conversion :=
  { state with emitted := leaving.reverse ++ state.emitted, pending := staying }

/-! ### What one token does -/

/-- What one token may do to a state: a number is emitted, an opening parenthesis waits, a closing
one lets the tokens of its group go, and an operator waits once those that bind at least as tightly
are gone. -/
inductive Moves (state : Conversion) (token : Token) : Conversion → Prop
  | number (hkind : token.kind = .number) : Moves state token ((state.emit token).advance token)
  | opens (hkind : token.kind = .leftParen) :
      Moves state token ((state.openGroup token).advance token)
  | closes (hkind : token.kind = .rightParen) {leaving staying : List Token} {opening : Token}
      (hprevious : state.previous.any Token.isLeftParen = false)
      (hpending : state.pending = leaving ++ opening :: staying)
      (hleaving : ∀ t ∈ leaving, t.isLeftParen = false) (hopening : opening.isLeftParen = true) :
      Moves state token ((state.release leaving staying).advance token)
  | waits (hkind : token.kind = .operator) {leaving staying : List Token}
      (hpending : state.pending = leaving ++ staying)
      (hleaving : ∀ t ∈ leaving, yieldsTo token t = true)
      (hstaying : ∀ t ∈ staying.head?, yieldsTo token t = false) :
      Moves state token ((state.release leaving (token :: staying)).advance token)

/-- The tokens that wait in the innermost group are those above its opening parenthesis. -/
private theorem span_isLeftParen {pending leaving staying : List Token} {opening : Token}
    (hpending : pending = leaving ++ opening :: staying)
    (hleaving : ∀ t ∈ leaving, t.isLeftParen = false) (hopening : opening.isLeftParen = true) :
    pending.span (!·.isLeftParen) = (leaving, opening :: staying) := by
  rw [hpending]
  refine span_append (fun t ht => ?_) (fun t ht => ?_)
  · simp [hleaving t ht]
  · obtain rfl : opening = t := by simpa using ht
    simp [hopening]

/-- A group is closed by letting the tokens above its opening parenthesis go. -/
theorem closeGroup_of_append {state : Conversion} {leaving staying : List Token} {opening : Token}
    (hprevious : state.previous.any Token.isLeftParen = false)
    (hpending : state.pending = leaving ++ opening :: staying)
    (hleaving : ∀ t ∈ leaving, t.isLeftParen = false) (hopening : opening.isLeftParen = true) :
    state.closeGroup = .ok (state.release leaving staying) := by
  simp only [closeGroup, hprevious, Bool.false_eq_true, if_false,
    span_isLeftParen hpending hleaving hopening, release]

/-- An operator is stacked once the tokens that yield to it are gone. -/
theorem stack_of_append {state : Conversion} {token : Token} {leaving staying : List Token}
    (hpending : state.pending = leaving ++ staying)
    (hleaving : ∀ t ∈ leaving, yieldsTo token t = true)
    (hstaying : ∀ t ∈ staying.head?, yieldsTo token t = false) :
    state.stack token = state.release leaving (token :: staying) := by
  simp only [stack, hpending, span_append hleaving hstaying, release]

/-- Every move is what the token does. -/
theorem Moves.step_eq {state next : Conversion} {token : Token} (h : Moves state token next) :
    state.step token = .ok next := by
  cases h with
  | number hkind => simp only [step, hkind]
  | opens hkind => simp only [step, hkind]
  | closes hkind hprevious hpending hleaving hopening =>
      simp only [step, hkind, closeGroup_of_append hprevious hpending hleaving hopening]
  | waits hkind hpending hleaving hstaying =>
      simp only [step, hkind, stack_of_append hpending hleaving hstaying]

/-- What a token does is a move. -/
theorem moves_of_step {state next : Conversion} {token : Token} (h : state.step token = .ok next) :
    Moves state token next := by
  cases hkind : token.kind with
  | number =>
      simp only [step, hkind, Except.ok.injEq] at h
      exact h ▸ .number hkind
  | leftParen =>
      simp only [step, hkind, Except.ok.injEq] at h
      exact h ▸ .opens hkind
  | operator =>
      obtain ⟨leaving, staying, -, hpending, hleaving, hstaying⟩ :=
        exists_span (yieldsTo token) state.pending
      simp only [step, hkind, stack_of_append hpending hleaving hstaying, Except.ok.injEq] at h
      exact h ▸ .waits hkind hpending hleaving hstaying
  | rightParen =>
      obtain ⟨leaving, staying, hspan, hpending, hleaving, hstaying⟩ :=
        exists_span (!·.isLeftParen) state.pending
      cases hprevious : state.previous.any Token.isLeftParen with
      | true => simp [step, hkind, closeGroup, hprevious] at h
      | false =>
          cases staying with
          | nil =>
              simp only [step, hkind, closeGroup, hprevious, hspan] at h
              simp at h
          | cons opening below =>
              have hnone : ∀ t ∈ leaving, t.isLeftParen = false := by simpa using hleaving
              have hopening : opening.isLeftParen = true := by simpa using hstaying
              simp only [step, hkind,
                closeGroup_of_append hprevious hpending hnone hopening, Except.ok.injEq] at h
              exact h ▸ .closes hkind hprevious hpending hnone hopening

/-- The relation is what a step computes. -/
theorem step_eq_ok_iff {state next : Conversion} {token : Token} :
    state.step token = .ok next ↔ Moves state token next :=
  ⟨moves_of_step, Moves.step_eq⟩

/-- A token list is read by its first token and then the rest. -/
theorem run_cons_eq_ok_iff {state last : Conversion} {token : Token} {rest : List Token} :
    state.run (token :: rest) = .ok last ↔
      ∃ next, Moves state token next ∧ next.run rest = .ok last := by
  simp only [run, ← step_eq_ok_iff]
  cases state.step token <;> simp

/-- Tokens are read one list after the other. -/
theorem run_append (state : Conversion) (first second : List Token) :
    state.run (first ++ second) = (state.run first).bind (fun s => s.run second) := by
  induction first generalizing state with
  | nil => rfl
  | cons token rest ih =>
      simp only [List.cons_append, run]
      cases state.step token with
      | ok next => exact ih next
      | error defect => rfl

/-- A conversion ends well if no group is open, and then all that waits leaves. -/
theorem finish_eq_ok_iff {state : Conversion} {listing : List Token} :
    state.finish = .ok listing ↔
      (∀ t ∈ state.pending, t.isLeftParen = false) ∧
        listing = (state.pending.reverse ++ state.emitted).reverse := by
  obtain ⟨leaving, staying, hspan, hpending, hleaving, hstaying⟩ :=
    exists_span (!·.isLeftParen) state.pending
  cases staying with
  | nil =>
      rw [List.append_nil] at hpending
      subst hpending
      have hnone : ∀ t ∈ state.pending, t.isLeftParen = false := by simpa using hleaving
      simp only [finish, hspan, List.isEmpty_nil, if_true, Except.ok.injEq]
      exact ⟨fun h => ⟨hnone, h.symm⟩, fun h => h.2.symm⟩
  | cons opening below =>
      have hopening : opening.isLeftParen = true := by simpa using hstaying
      have hmem : opening ∈ state.pending := by simp [hpending]
      simp only [finish, hspan]
      simp only [List.isEmpty_cons, Bool.false_eq_true, if_false, reduceCtorEq, false_iff,
        not_and]
      intro hall
      rw [hall opening hmem] at hopening
      contradiction

/-- An open group is refused at the end, with the number of tokens that were given out by then. -/
theorem finish_of_append {state : Conversion} {leaving staying : List Token} {opening : Token}
    (hpending : state.pending = leaving ++ opening :: staying)
    (hleaving : ∀ t ∈ leaving, t.isLeftParen = false) (hopening : opening.isLeftParen = true) :
    state.finish = .error (.unclosed (leaving.length + state.emitted.length)) := by
  simp only [finish, span_isLeftParen hpending hleaving hopening]
  simp

/-! ### No token is lost -/

/-- What a state has still to give out: what was emitted, and what waits without opening a
group. -/
def held (state : Conversion) : List Token :=
  state.emitted ++ state.pending.filter (!·.isLeftParen)

/-- Reading on changes nothing in what is held. -/
@[simp] theorem held_advance (state : Conversion) (token : Token) :
    (state.advance token).held = state.held := rfl

/-- A token that yields is an operator and opens no group. -/
theorem isLeftParen_of_yieldsTo {token waiting : Token} (h : yieldsTo token waiting = true) :
    waiting.isLeftParen = false := by
  simp only [yieldsTo, Bool.and_eq_true, Token.isOperator, decide_eq_true_eq] at h
  simp [Token.isLeftParen, h.1]

/-- Tokens that open no group all stay in what is held. -/
private theorem filter_isLeftParen_eq_self {l : List Token}
    (h : ∀ t ∈ l, t.isLeftParen = false) : l.filter (!·.isLeftParen) = l := by
  rw [List.filter_eq_self]
  intro t ht
  simp [h t ht]

/-- Letting elements go that are kept anyway changes nothing in what is kept. -/
theorem release_perm {α : Type} (p : α → Bool) {emitted leaving staying : List α}
    (hleaving : ∀ a ∈ leaving, p a = true) :
    leaving.reverse ++ emitted ++ staying.filter p ~ emitted ++ (leaving ++ staying).filter p := by
  rw [List.filter_append, List.filter_eq_self.mpr hleaving]
  calc leaving.reverse ++ emitted ++ staying.filter p
      ~ leaving ++ emitted ++ staying.filter p :=
        ((List.reverse_perm leaving).append_right _).append_right _
    _ ~ emitted ++ leaving ++ staying.filter p := List.perm_append_comm.append_right _
    _ = emitted ++ (leaving ++ staying.filter p) := List.append_assoc ..

/-- Letting tokens go that open no group changes nothing in what is held. -/
private theorem held_release_perm {state : Conversion} {leaving staying : List Token}
    (hleaving : ∀ t ∈ leaving, t.isLeftParen = false) :
    (state.release leaving staying).held ~
      state.emitted ++ (leaving ++ staying).filter (!·.isLeftParen) := by
  refine release_perm _ fun t ht => ?_
  simp [hleaving t ht]

/-- A move adds its token to what is held, unless the token is a parenthesis. -/
theorem Moves.held_perm {state next : Conversion} {token : Token} (h : Moves state token next) :
    next.held ~ [token].filter (!·.isParen) ++ state.held := by
  cases h with
  | number hkind => simp [held, emit, advance, Token.isParen, hkind]
  | opens hkind => simp [held, openGroup, advance, Token.isParen, Token.isLeftParen, hkind]
  | @closes hkind leaving staying opening hprevious hpending hleaving hopening =>
      have hparen : [token].filter (!·.isParen) = [] := by simp [Token.isParen, hkind]
      have hheld : state.held = state.emitted ++ (leaving ++ staying).filter (!·.isLeftParen) := by
        simp [held, hpending, hopening]
      rw [hparen, List.nil_append, held_advance, hheld]
      exact held_release_perm hleaving
  | @waits hkind leaving staying hpending hleaving hstaying =>
      have hparen : [token].filter (!·.isParen) = [token] := by simp [Token.isParen, hkind]
      have htoken : token.isLeftParen = false := by simp [Token.isLeftParen, hkind]
      have hnone : ∀ t ∈ leaving, t.isLeftParen = false :=
        fun t ht => isLeftParen_of_yieldsTo (hleaving t ht)
      have hheld : state.held = state.emitted ++ (leaving ++ staying).filter (!·.isLeftParen) := by
        rw [held, hpending]
      rw [hparen, held_advance, List.singleton_append, hheld]
      refine (held_release_perm hnone).trans ?_
      simp only [List.filter_append, List.filter_cons, htoken, Bool.not_false, if_true]
      exact (List.perm_middle.append_left _).trans List.perm_middle

/-- A run adds its tokens to what is held, without the parentheses. -/
theorem held_perm_of_run {state last : Conversion} {tokens : List Token}
    (h : state.run tokens = .ok last) :
    last.held ~ tokens.filter (!·.isParen) ++ state.held := by
  induction tokens generalizing state with
  | nil =>
      simp only [run, Except.ok.injEq] at h
      simp [h]
  | cons token rest ih =>
      obtain ⟨next, hmove, hrun⟩ := run_cons_eq_ok_iff.mp h
      have hfilter : (token :: rest).filter (!·.isParen) =
          [token].filter (!·.isParen) ++ rest.filter (!·.isParen) :=
        List.filter_append [token] rest
      rw [hfilter]
      refine (ih hrun).trans ((hmove.held_perm.append_left _).trans ?_)
      rw [← List.append_assoc]
      exact List.perm_append_comm.append_right _

/-! ### Groups are closed one by one -/

/-- The number of open groups. -/
def depth (state : Conversion) : Nat := state.pending.countP Token.isLeftParen

/-- A token that opens no group counts for nothing in the depth. -/
private theorem countP_isLeftParen_eq_zero {l : List Token}
    (h : ∀ t ∈ l, t.isLeftParen = false) : l.countP Token.isLeftParen = 0 := by
  rw [List.countP_eq_zero]
  intro t ht
  simp [h t ht]

/-- Before anything is read no group is open. -/
@[simp] theorem depth_start : depth {} = 0 := rfl

/-- A move raises the depth by the groups that its token opens, less those that it closes. -/
theorem Moves.depth_add {state next : Conversion} {token : Token} (h : Moves state token next) :
    next.depth + closings [token] = state.depth + openings [token] := by
  cases h with
  | number hkind => simp [depth, emit, advance, openings, closings, hkind]
  | opens hkind =>
      simp [depth, openGroup, advance, openings, closings, Token.isLeftParen, hkind]
  | @closes hkind leaving staying opening hprevious hpending hleaving hopening =>
      simp [depth, release, advance, openings, closings, hkind, hpending, hopening,
        countP_isLeftParen_eq_zero hleaving]
  | @waits hkind leaving staying hpending hleaving hstaying =>
      have hnone : leaving.countP Token.isLeftParen = 0 :=
        countP_isLeftParen_eq_zero fun t ht => isLeftParen_of_yieldsTo (hleaving t ht)
      have htoken : token.isLeftParen = false := by simp [Token.isLeftParen, hkind]
      simp [depth, release, advance, openings, closings, hkind, hpending, hnone, htoken]

/-- A run raises the depth by the groups that its tokens open, less those that they close. -/
theorem depth_add_of_run {state last : Conversion} {tokens : List Token}
    (h : state.run tokens = .ok last) :
    last.depth + closings tokens = state.depth + openings tokens := by
  induction tokens generalizing state with
  | nil =>
      obtain rfl := Except.ok.inj h
      rfl
  | cons token rest ih =>
      obtain ⟨next, hmove, hrun⟩ := run_cons_eq_ok_iff.mp h
      have hstep := hmove.depth_add
      have hrest := ih hrun
      have hopenings : openings (token :: rest) = _ := openings_append [token] rest
      have hclosings : closings (token :: rest) = _ := closings_append [token] rest
      omega

end Conversion

/-- The tokens close `depth` groups that are open before them, and every group of their own. -/
def Closes : Nat → List Token → Prop
  | depth, [] => depth = 0
  | depth, token :: rest =>
    match token.kind with
    | .leftParen => Closes (depth + 1) rest
    | .rightParen => ∃ outer, depth = outer + 1 ∧ Closes outer rest
    | .number => Closes depth rest
    | .operator => Closes depth rest

/-- The closing parenthesis at which `outer` groups are left open parts the tokens. -/
theorem Closes.exists_split (inner outer : Nat) {tokens : List Token}
    (h : Closes (inner + 1 + outer) tokens) :
    ∃ (before : List Token) (closing : Token) (after : List Token),
      tokens = before ++ closing :: after ∧ closing.kind = .rightParen ∧
        Closes inner before ∧ Closes outer after := by
  induction tokens generalizing inner with
  | nil => simp only [Closes] at h; omega
  | cons token rest ih =>
      -- a token that does not part the tokens goes before the one that does
      cases hkind : token.kind with
      | number =>
          simp only [Closes, hkind] at h
          obtain ⟨before, closing, after, rfl, hclosing, hbefore, hafter⟩ := ih inner h
          exact ⟨token :: before, closing, after, rfl, hclosing, by simpa [Closes, hkind], hafter⟩
      | operator =>
          simp only [Closes, hkind] at h
          obtain ⟨before, closing, after, rfl, hclosing, hbefore, hafter⟩ := ih inner h
          exact ⟨token :: before, closing, after, rfl, hclosing, by simpa [Closes, hkind], hafter⟩
      | leftParen =>
          simp only [Closes, hkind] at h
          obtain ⟨before, closing, after, rfl, hclosing, hbefore, hafter⟩ :=
            ih (inner + 1) (by rwa [Nat.add_right_comm] at h)
          exact ⟨token :: before, closing, after, rfl, hclosing, by simpa [Closes, hkind], hafter⟩
      | rightParen =>
          simp only [Closes, hkind] at h
          obtain ⟨depth, hdepth, hrest⟩ := h
          cases inner with
          | zero =>
              obtain rfl : depth = outer := by omega
              exact ⟨[], token, rest, rfl, hkind, rfl, hrest⟩
          | succ k =>
              obtain rfl : depth = k + 1 + outer := by omega
              obtain ⟨before, closing, after, rfl, hclosing, hbefore, hafter⟩ := ih k hrest
              refine ⟨token :: before, closing, after, rfl, hclosing, ?_, hafter⟩
              simp only [Closes, hkind]
              exact ⟨k, rfl, hbefore⟩

namespace Conversion

/-- A run that ends without an open group closes those that were open. -/
theorem closes_of_run {state last : Conversion} {tokens : List Token}
    (h : state.run tokens = .ok last) (hlast : last.depth = 0) : Closes state.depth tokens := by
  induction tokens generalizing state with
  | nil =>
      simp only [run, Except.ok.injEq] at h
      exact h ▸ hlast
  | cons token rest ih =>
      obtain ⟨next, hmove, hrun⟩ := run_cons_eq_ok_iff.mp h
      have hrest := ih hrun
      have hdepth := hmove.depth_add
      cases hkind : token.kind with
      | number =>
          have hsame : next.depth = state.depth := by
            simpa [openings, closings, hkind] using hdepth
          simp only [Closes, hkind]
          exact hsame ▸ hrest
      | operator =>
          have hsame : next.depth = state.depth := by
            simpa [openings, closings, hkind] using hdepth
          simp only [Closes, hkind]
          exact hsame ▸ hrest
      | leftParen =>
          have hopened : next.depth = state.depth + 1 := by
            simpa [openings, closings, hkind] using hdepth
          simp only [Closes, hkind]
          exact hopened ▸ hrest
      | rightParen =>
          have hclosed : next.depth + 1 = state.depth := by
            simpa [openings, closings, hkind] using hdepth
          simp only [Closes, hkind]
          exact ⟨next.depth, hclosed.symm, hrest⟩

/-! ### Parentheses alone -/

/-- After an opening parenthesis further parentheses can only open groups. -/
private theorem exists_isLeftParen_of_run {state last : Conversion} {tokens : List Token}
    (h : state.run tokens = .ok last) (hparens : ∀ t ∈ tokens, t.isParen = true)
    (hprevious : state.previous.any Token.isLeftParen = true)
    (hopen : ∃ t ∈ state.pending, t.isLeftParen = true) :
    ∃ t ∈ last.pending, t.isLeftParen = true := by
  induction tokens generalizing state with
  | nil =>
      simp only [run, Except.ok.injEq] at h
      exact h ▸ hopen
  | cons token rest ih =>
      obtain ⟨hparen, hparens⟩ := List.forall_mem_cons.mp hparens
      obtain ⟨next, hmove, hrun⟩ := run_cons_eq_ok_iff.mp h
      cases hmove with
      | number hkind => simp [Token.isParen, hkind] at hparen
      | opens hkind =>
          have hleft : token.isLeftParen = true := by simp [Token.isLeftParen, hkind]
          exact ih hrun hparens (by simpa [advance] using hleft)
            ⟨token, by simp [openGroup, advance], hleft⟩
      | closes _ hnone => simp [hnone] at hprevious
      | waits hkind => simp [Token.isParen, hkind] at hparen

end Conversion

/-! ### Whole conversions -/

section

variable {tokens listing : List Token}

/-- A conversion succeeds if the run and its end do. -/
theorem toPostfix_eq_ok_iff :
    toPostfix tokens = .ok listing ↔
      ∃ last, Conversion.run {} tokens = .ok last ∧ last.finish = .ok listing := by
  simp only [toPostfix]
  cases Conversion.run {} tokens <;> simp

/-- **No token is lost or made up**: a conversion gives out the tokens that are no parentheses. -/
theorem toPostfix_perm (h : toPostfix tokens = .ok listing) :
    listing ~ tokens.filter (!·.isParen) := by
  obtain ⟨last, hrun, hfinish⟩ := toPostfix_eq_ok_iff.mp h
  obtain ⟨hnone, rfl⟩ := Conversion.finish_eq_ok_iff.mp hfinish
  have hheld : last.held ~ tokens.filter (!·.isParen) := by
    simpa [Conversion.held] using Conversion.held_perm_of_run hrun
  rw [Conversion.held, Conversion.filter_isLeftParen_eq_self hnone] at hheld
  calc (last.pending.reverse ++ last.emitted).reverse
      ~ last.pending.reverse ++ last.emitted := List.reverse_perm _
    _ ~ last.pending ++ last.emitted := (List.reverse_perm _).append_right _
    _ ~ last.emitted ++ last.pending := List.perm_append_comm
    _ ~ tokens.filter (!·.isParen) := hheld

/-- A list that is converted closes all its groups. -/
theorem toPostfix_closes (h : toPostfix tokens = .ok listing) : Closes 0 tokens := by
  obtain ⟨last, hrun, hfinish⟩ := toPostfix_eq_ok_iff.mp h
  obtain ⟨hnone, -⟩ := Conversion.finish_eq_ok_iff.mp hfinish
  exact Conversion.closes_of_run hrun (Conversion.countP_isLeftParen_eq_zero hnone)

/-- Something is given out unless nothing was read: parentheses alone are never converted. -/
theorem toPostfix_ne_nil (h : toPostfix tokens = .ok listing) (hne : tokens ≠ []) :
    listing ≠ [] := by
  rintro rfl
  obtain ⟨last, hrun, hfinish⟩ := toPostfix_eq_ok_iff.mp h
  obtain ⟨hnone, -⟩ := Conversion.finish_eq_ok_iff.mp hfinish
  have hparens : ∀ t ∈ tokens, t.isParen = true := by
    have hnil := (toPostfix_perm h).symm.eq_nil
    simpa [List.filter_eq_nil_iff] using hnil
  obtain ⟨first, rest, rfl⟩ := List.exists_cons_of_ne_nil hne
  obtain ⟨hparen, hparens⟩ := List.forall_mem_cons.mp hparens
  obtain ⟨next, hmove, hrun⟩ := Conversion.run_cons_eq_ok_iff.mp hrun
  cases hmove with
  | number hkind => simp [Token.isParen, hkind] at hparen
  | closes _ _ hpending => simp at hpending
  | waits hkind => simp [Token.isParen, hkind] at hparen
  | opens hkind =>
      have hleft : first.isLeftParen = true := by simp [Token.isLeftParen, hkind]
      obtain ⟨t, ht, hopen⟩ := Conversion.exists_isLeftParen_of_run hrun hparens
        (by simpa [Conversion.advance] using hleft)
        ⟨first, by simp [Conversion.openGroup, Conversion.advance], hleft⟩
      simp [hnone t ht] at hopen

end

end Calculator
