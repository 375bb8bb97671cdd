import Calculator.Proofs.Postfix.Balance

/-!
# What the conversion leaves alone

Without parentheses every list of numbers and operators is converted, and most of them come out in
another order. A list keeps its order if all its numbers come first and no operator binds tighter
than one before it. In any other list an operator waits while something passes it: a number, or an
operator that binds tighter. What comes out in its place then differs from it as a token, not only
in where it was read, so that equal tokens cannot make up for it.

## Main definitions

* `Conversion.Ends`: what a state gives out once the rest of a list is read.
* `Settled`: numbers, and then operators that never bind tighter than one before.

## Main results

* `Conversion.Ends.emitted_first`: what was emitted comes first.
* `Conversion.Ends.passed`: what comes out next while an operator waits on top.
* `Conversion.ends_waiting_iff`, `Conversion.ends_idle_iff`: when the rest of a list comes out as it
  was read.
* `toPostfix_eq_self_iff`: **exactly which lists are left alone**.
-/

namespace Calculator

/-- Numbers come first, and the operators behind them never bind tighter than one before. -/
def Settled (tokens : List Token) : Prop :=
  ∃ numbers operators, tokens = numbers ++ operators ∧ (∀ t ∈ numbers, t.kind = .number) ∧
    (∀ t ∈ operators, t.kind = .operator) ∧
    operators.Pairwise fun first second => second.precedence ≤ first.precedence

/-- A token that is no parenthesis is a number or an operator. -/
theorem Token.kind_of_isParen {token : Token} (h : token.isParen = false) :
    token.kind = .number ∨ token.kind = .operator := by
  cases hkind : token.kind <;> simp [isParen, hkind] at h ⊢

section

variable {token next : Token} {tokens : List Token}

/-- A number in front changes nothing. -/
theorem settled_cons_number (hkind : token.kind = .number) :
    Settled (token :: tokens) ↔ Settled tokens := by
  constructor
  · rintro ⟨- | ⟨first, numbers⟩, operators, hsplit, hnumbers, hoperators, hsorted⟩
    · -- there is no operator in front
      obtain rfl : token :: tokens = operators := hsplit
      simp [hkind] at hoperators
    · obtain ⟨rfl, rfl⟩ : token = first ∧ tokens = numbers ++ operators := by simpa using hsplit
      exact ⟨numbers, operators, rfl, (List.forall_mem_cons.mp hnumbers).2, hoperators, hsorted⟩
  · rintro ⟨numbers, operators, rfl, hnumbers, hoperators, hsorted⟩
    exact ⟨token :: numbers, operators, rfl, List.forall_mem_cons.mpr ⟨hkind, hnumbers⟩,
      hoperators, hsorted⟩

/-- Behind an operator there are operators only, and none binds tighter than one before. -/
theorem settled_cons_operator (hkind : token.kind = .operator) :
    Settled (token :: tokens) ↔ (∀ t ∈ tokens, t.kind = .operator) ∧
      (token :: tokens).Pairwise fun first second => second.precedence ≤ first.precedence := by
  constructor
  · rintro ⟨- | ⟨first, numbers⟩, operators, hsplit, hnumbers, hoperators, hsorted⟩
    · obtain rfl : token :: tokens = operators := hsplit
      exact ⟨(List.forall_mem_cons.mp hoperators).2, hsorted⟩
    · obtain ⟨rfl, -⟩ : token = first ∧ _ := by simpa using hsplit
      simp [hkind] at hnumbers
  · rintro ⟨hoperators, hsorted⟩
    exact ⟨[], token :: tokens, rfl, by simp, List.forall_mem_cons.mpr ⟨hkind, hoperators⟩,
      hsorted⟩

/-- An operator needs to be compared with the next one only. -/
theorem settled_cons_cons (hkind : token.kind = .operator) (hnext : next.kind = .operator) :
    Settled (token :: next :: tokens) ↔
      next.precedence ≤ token.precedence ∧ Settled (next :: tokens) := by
  rw [settled_cons_operator hkind, settled_cons_operator hnext, List.pairwise_cons]
  constructor
  · rintro ⟨hoperators, htoken, hsorted⟩
    exact ⟨htoken next List.mem_cons_self, (List.forall_mem_cons.mp hoperators).2, hsorted⟩
  · rintro ⟨hle, hoperators, hsorted⟩
    have hrest : ∀ t ∈ tokens, t.precedence ≤ next.precedence := (List.pairwise_cons.mp hsorted).1
    exact ⟨List.forall_mem_cons.mpr ⟨hnext, hoperators⟩,
      List.forall_mem_cons.mpr ⟨hle, fun t ht => (hrest t ht).trans hle⟩, hsorted⟩

end

namespace Conversion

variable {state : Conversion} {token top : Token} {tokens listing below : List Token}

/-- The state gives out a listing once the tokens are read. -/
def Ends (state : Conversion) (tokens listing : List Token) : Prop :=
  ∃ last, state.run tokens = .ok last ∧ last.finish = .ok listing

/-- A list is converted to what the start gives out. -/
theorem ends_start : Ends {} tokens listing ↔ toPostfix tokens = .ok listing :=
  toPostfix_eq_ok_iff.symm

/-- What one token does comes first. -/
theorem ends_cons : state.Ends (token :: tokens) listing ↔
    ∃ next, Moves state token next ∧ next.Ends tokens listing := by
  simp only [Ends, run_cons_eq_ok_iff]
  constructor
  · rintro ⟨last, ⟨next, hmove, hrun⟩, hfinish⟩
    exact ⟨next, hmove, last, hrun, hfinish⟩
  · rintro ⟨next, hmove, last, hrun, hfinish⟩
    exact ⟨last, ⟨next, hmove, hrun⟩, hfinish⟩

/-- At the end all that waits comes out, the topmost first. -/
theorem ends_nil : state.Ends [] listing ↔
    (∀ t ∈ state.pending, t.isLeftParen = false) ∧
      listing = state.emitted.reverse ++ state.pending := by
  simp [Ends, run, finish_eq_ok_iff]

/-- A number is emitted. -/
theorem ends_cons_number (hkind : token.kind = .number) :
    state.Ends (token :: tokens) listing ↔
      ((state.emit token).advance token).Ends tokens listing := by
  rw [ends_cons]
  constructor
  · rintro ⟨next, hmove, hends⟩
    cases hmove with
    | number => exact hends
    | opens hkind' | closes hkind' | waits hkind' => simp [hkind] at hkind'
  · exact fun hends => ⟨_, .number hkind, hends⟩

/-- An operator waits once the tokens that yield to it are gone. -/
theorem ends_cons_operator {leaving staying : List Token} (hkind : token.kind = .operator)
    (hpending : state.pending = leaving ++ staying)
    (hleaving : ∀ t ∈ leaving, yieldsTo token t = true)
    (hstaying : ∀ t ∈ staying.head?, yieldsTo token t = false) :
    state.Ends (token :: tokens) listing ↔
      ((state.release leaving (token :: staying)).advance token).Ends tokens listing := by
  have hmove : Moves state token _ := .waits hkind hpending hleaving hstaying
  rw [ends_cons]
  constructor
  · rintro ⟨next, hnext, hends⟩
    obtain rfl := Except.ok.inj (hnext.step_eq.symm.trans hmove.step_eq)
    exact hends
  · exact fun hends => ⟨_, hmove, hends⟩

/-! ### What comes out first -/

/-- Moves add to what was emitted. -/
theorem Moves.emitted_suffix {next : Conversion} (h : Moves state token next) :
    state.emitted <:+ next.emitted := by
  cases h with
  | number => exact List.suffix_cons ..
  | opens => exact List.suffix_rfl
  | closes => exact List.suffix_append ..
  | waits => exact List.suffix_append ..

/-- What was emitted comes first. -/
theorem Ends.emitted_first (h : state.Ends tokens listing) : state.emitted.reverse <+: listing := by
  induction tokens generalizing state with
  | nil => exact ⟨state.pending, (ends_nil.mp h).2.symm⟩
  | cons token rest ih =>
      obtain ⟨next, hmove, hends⟩ := ends_cons.mp h
      exact (List.reverse_prefix.mpr hmove.emitted_suffix).trans (ih hends)

/-- While an operator waits on top, what comes out next is a number or an operator that binds at
least as tightly: the operator itself, or one that passes it. -/
theorem Ends.passed (h : state.Ends tokens listing) (hparens : ∀ t ∈ tokens, t.isParen = false)
    (hpending : state.pending = top :: below) (htop : top.kind = .operator) :
    ∃ passing later, listing = state.emitted.reverse ++ passing :: later ∧
      (passing.kind = .operator → top.precedence ≤ passing.precedence) := by
  induction tokens generalizing state top below with
  | nil =>
      refine ⟨top, below, ?_, fun _ => Nat.le_refl _⟩
      rw [(ends_nil.mp h).2, hpending]
  | cons token rest ih =>
      obtain ⟨hparen, hparens⟩ := List.forall_mem_cons.mp hparens
      rcases Token.kind_of_isParen hparen with hkind | hkind
      · obtain ⟨later, hlater⟩ := ((ends_cons_number hkind).mp h).emitted_first
        exact ⟨token, later, by simpa [emit, advance] using hlater.symm, by simp [hkind]⟩
      · obtain ⟨leaving, staying, -, hsplit, hleaving, hstaying⟩ :=
          exists_span (yieldsTo token) state.pending
        have hends := (ends_cons_operator hkind hsplit hleaving hstaying).mp h
        rw [hpending] at hsplit
        cases leaving with
        | nil =>
            -- the operator is stacked on top, and binds tighter
            rw [List.nil_append] at hsplit
            subst hsplit
            obtain ⟨passing, later, hlisting, hpassing⟩ := ih hends hparens rfl hkind
            refine ⟨passing, later, by simpa [release, advance] using hlisting, fun hoperator => ?_⟩
            have htighter : top.precedence < token.precedence := by
              simpa [yieldsTo, Token.isOperator, htop] using hstaying
            exact Nat.le_of_lt (htighter.trans_le (hpassing hoperator))
        | cons first leaving =>
            obtain ⟨rfl, -⟩ : top = first ∧ _ := by simpa using hsplit
            obtain ⟨later, hlater⟩ := hends.emitted_first
            refine ⟨top, leaving ++ later, ?_, fun _ => Nat.le_refl _⟩
            simpa [release, advance] using hlater.symm

/-! ### What comes out as it was read -/

/-- Behind an operator that waits alone, the rest comes out as it was read exactly if it consists of
operators that never bind tighter than one before. -/
theorem ends_waiting_iff (hpending : state.pending = [top]) (htop : top.kind = .operator)
    (hparens : ∀ t ∈ tokens, t.isParen = false) :
    state.Ends tokens (state.emitted.reverse ++ top :: tokens) ↔ Settled (top :: tokens) := by
  induction tokens generalizing state top with
  | nil => simp [ends_nil, hpending, Token.isLeftParen, htop, settled_cons_operator]
  | cons token rest ih =>
      obtain ⟨hparen, hparens⟩ := List.forall_mem_cons.mp hparens
      rcases Token.kind_of_isParen hparen with hkind | hkind
      · -- the number comes out where the operator should
        refine iff_of_false (fun h => ?_) (fun h => ?_)
        · obtain ⟨later, hlater⟩ := ((ends_cons_number hkind).mp h).emitted_first
          obtain ⟨rfl, -⟩ : token = top ∧ _ := by simpa [emit, advance] using hlater
          simp [hkind] at htop
        · simp [settled_cons_operator htop, hkind] at h
      rw [settled_cons_cons htop hkind]
      by_cases hle : token.precedence ≤ top.precedence
      · have hyields : yieldsTo token top = true := by simp [yieldsTo, Token.isOperator, htop, hle]
        let next := (state.release [top] [token]).advance token
        have hends : state.Ends (token :: rest) (state.emitted.reverse ++ top :: token :: rest) ↔
            next.Ends rest (state.emitted.reverse ++ top :: token :: rest) :=
          ends_cons_operator hkind (show state.pending = [top] ++ [] from hpending)
            (by simpa using hyields) (by simp)
        have hrest : next.Ends rest (next.emitted.reverse ++ token :: rest) ↔
            Settled (token :: rest) := ih rfl hkind hparens
        rw [hends, ← hrest]
        simp [next, release, advance, hle]
      · -- what comes out where the operator should binds tighter
        refine iff_of_false (fun h => ?_) (fun h => hle h.1)
        have hstays : yieldsTo token top = false := by simp [yieldsTo, hle]
        have hends := (ends_cons_operator hkind (show state.pending = [] ++ [top] from hpending)
          (by simp) (by simpa using hstays)).mp h
        obtain ⟨passing, later, hlisting, hpassing⟩ := hends.passed hparens rfl hkind
        obtain ⟨rfl, -⟩ : top = passing ∧ _ := by simpa [release, advance] using hlisting
        exact hle (hpassing htop)

/-- While nothing waits, the rest comes out as it was read exactly if it is settled. -/
theorem ends_idle_iff (hpending : state.pending = []) (hparens : ∀ t ∈ tokens, t.isParen = false) :
    state.Ends tokens (state.emitted.reverse ++ tokens) ↔ Settled tokens := by
  induction tokens generalizing state with
  | nil => simp [ends_nil, hpending, Settled]
  | cons token rest ih =>
      obtain ⟨hparen, hparens⟩ := List.forall_mem_cons.mp hparens
      rcases Token.kind_of_isParen hparen with hkind | hkind
      · let next := (state.emit token).advance token
        have hrest : next.Ends rest (next.emitted.reverse ++ rest) ↔ Settled rest :=
          ih hpending hparens
        rw [ends_cons_number hkind, settled_cons_number hkind, ← hrest]
        simp [next, emit, advance]
      · let next := (state.release [] [token]).advance token
        have hrest : next.Ends rest (next.emitted.reverse ++ token :: rest) ↔
            Settled (token :: rest) := ends_waiting_iff rfl hkind hparens
        rw [ends_cons_operator hkind (show state.pending = [] ++ [] from hpending) (by simp)
          (by simp), ← hrest]
        rfl

end Conversion

/-! ### Whole lists -/

section

variable {tokens : List Token}

/-- Without parentheses nothing is open, and nothing is closed. -/
theorem balanced_of_isParen (hparens : ∀ t ∈ tokens, t.isParen = false) : Balanced tokens := by
  have hkinds : ∀ t ∈ tokens, t.kind ≠ .leftParen ∧ t.kind ≠ .rightParen := fun t ht => by
    simpa [Token.isParen] using hparens t ht
  have hclosings {some : List Token} (hsome : some ⊆ tokens) : closings some = 0 :=
    List.countP_eq_zero.mpr fun t ht => by simpa using (hkinds t (hsome ht)).2
  have hopenings : openings tokens = 0 :=
    List.countP_eq_zero.mpr fun t ht => by simpa using (hkinds t ht).1
  refine ⟨fun before hbefore => ?_, ?_, fun p hopening => ?_⟩
  · rw [hclosings hbefore.subset]
    exact Nat.zero_le _
  · rw [hopenings, hclosings (List.Subset.refl _)]
  · obtain ⟨token, htoken, hkind⟩ := Option.map_eq_some_iff.mp hopening
    exact absurd hkind (hkinds token (List.mem_of_getElem? htoken)).1

/-- **Exactly which lists are left alone.** A list without parentheses is always converted. It comes
out as it was read if it consists of numbers and then operators whose binding strengths never
increase, and changed otherwise. -/
theorem toPostfix_eq_self_iff (hparens : ∀ t ∈ tokens, t.isParen = false) :
    ∃ listing, toPostfix tokens = .ok listing ∧ (listing = tokens ↔ Settled tokens) := by
  obtain ⟨listing, hlisting⟩ := exists_toPostfix_of_balanced (balanced_of_isParen hparens)
  refine ⟨listing, hlisting, ?_⟩
  have hsettled : toPostfix tokens = .ok tokens ↔ Settled tokens :=
    Conversion.ends_start.symm.trans (Conversion.ends_idle_iff rfl hparens)
  rwa [hlisting, Except.ok.injEq] at hsettled

end

/-- The list `2 3 ^ / * + +` is left alone, with strengths and a token that repeat, and `2 3 + *` is
not: the product passes the sum. -/
theorem toPostfix_eq_self_iff_repeated :
    let number (text : String) : Token := { kind := .number, text }
    let sign (o : Operator) : Token := { kind := .operator, text := o.symbol }
    let settled : List Token := [number "2", number "3", sign .power, sign .divide, sign .times,
      sign .plus, sign .plus]
    let rising : List Token := [number "2", number "3", sign .plus, sign .times]
    toPostfix settled = .ok settled ∧
      ∃ listing, toPostfix rising = .ok listing ∧ listing ≠ rising := by
  intro number sign settled rising
  constructor
  · have hparens : ∀ t ∈ settled, t.isParen = false := by
      simp [settled, number, sign, Token.isParen]
    obtain ⟨listing, hlisting, hsettled⟩ := toPostfix_eq_self_iff hparens
    have hself : listing = settled := hsettled.mpr
      ⟨[number "2", number "3"], [sign .power, sign .divide, sign .times, sign .plus, sign .plus],
        rfl, by simp [number], by simp [sign], by decide⟩
    rw [hlisting, hself]
  · have hparens : ∀ t ∈ rising, t.isParen = false := by
      simp [rising, number, sign, Token.isParen]
    obtain ⟨listing, hlisting, hsettled⟩ := toPostfix_eq_self_iff hparens
    refine ⟨listing, hlisting, fun hself => ?_⟩
    have hrising := hsettled.mp hself
    rw [settled_cons_number rfl, settled_cons_number rfl, settled_cons_cons rfl rfl] at hrising
    exact absurd hrising.1 (by decide)

end Calculator
