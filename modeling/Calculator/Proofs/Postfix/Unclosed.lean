import Calculator.Proofs.Postfix.Balance
import Calculator.Proofs.Postfix.Emission

/-!
# Where a defect is reported

Every list that is refused is refused with a position. For a closing parenthesis that is out of
place it is the index of that parenthesis. For an opening one that nothing closes it is the number
of tokens that had been given out when the end met the last such parenthesis. This number is less
than the length of the list, but it is no index that has to do with the parenthesis: the token
there may well be a number.

## Main definitions

* `Unclosed`: an opening parenthesis that nothing closes.
* `Locates`: a position at which there is a defect of the reported kind.
* `isOut`, `givenOut`: which tokens were given out when the end met an opening parenthesis, and how
  many.

## Main results

* `getElem?_openGroups_iff`: the groups that are left open, from the innermost one.
* `Conversion.Tracks.givenOut_eq`: what was given out at the end, counted from the list alone.
* `convert_error_position`: **what position a refusal reports**, and when there is a defect.
-/

open scoped List

namespace Calculator

/-! ### Unclosed parentheses -/

/-- The token at an index is an opening parenthesis, and no later token closes it: what comes
between them never closes more groups than it opens. -/
def Unclosed (tokens : List Token) (i : Nat) : Prop :=
  kindAt tokens i = some .leftParen ∧
    ∀ between, between <+: tokens.drop (i + 1) → closings between ≤ openings between

section

variable {tokens : List Token} {token : Token} {i k : Nat}

/-- An unclosed parenthesis is one of the list. -/
theorem Unclosed.lt (h : Unclosed tokens i) : i < tokens.length := lt_of_kindAt h.1

/-- Behind an unclosed parenthesis no more groups are closed than opened. -/
theorem Unclosed.closings_le (h : Unclosed tokens i) :
    closings (tokens.drop (i + 1)) ≤ openings (tokens.drop (i + 1)) :=
  h.2 _ List.prefix_rfl

/-- A parenthesis stays unclosed if a further token does not close it. -/
theorem unclosed_concat_of_lt (hlt : i < tokens.length) :
    Unclosed (tokens ++ [token]) i ↔
      Unclosed tokens i ∧
        closings (tokens.drop (i + 1) ++ [token]) ≤ openings (tokens.drop (i + 1) ++ [token]) := by
  rw [Unclosed, Unclosed, kindAt_append hlt, List.drop_append_of_le_length hlt, and_assoc]
  refine and_congr_right fun _ => ⟨fun h => ?_, ?_⟩
  · exact ⟨fun between hbetween => h between (hbetween.trans (List.prefix_append _ _)),
      h _ List.prefix_rfl⟩
  · rintro ⟨hbefore, hall⟩ between hbetween
    rcases List.prefix_concat_iff.mp hbetween with rfl | hbetween
    · exact hall
    · exact hbefore between hbetween

/-- The last token is unclosed if it is an opening parenthesis. -/
theorem unclosed_concat_length :
    Unclosed (tokens ++ [token]) tokens.length ↔ token.kind = .leftParen := by
  simp [Unclosed, kindAt_length, openings, closings]

/-- **The groups that are left open are those of the unclosed parentheses**, the innermost first:
behind the parenthesis at place `k` there are `k` more that are unclosed. Induction on the tokens
from the end; a closing parenthesis takes away the innermost group, and one place from the
others. -/
theorem getElem?_openGroups_iff :
    (openGroups tokens)[k]? = some i ↔
      Unclosed tokens i ∧
        openings (tokens.drop (i + 1)) = closings (tokens.drop (i + 1)) + k := by
  induction tokens using List.reverseRecOn generalizing i k with
  | nil => simp [openGroups, Unclosed, kindAt]
  | append_singleton tokens token ih =>
      have hopening : openings [token] = if token.kind = .leftParen then 1 else 0 := by
        simp [openings]
      have hclosing : closings [token] = if token.kind = .rightParen then 1 else 0 := by
        simp [closings]
      rw [openGroups_concat]
      rcases Nat.lt_trichotomy i tokens.length with hlt | rfl | hgt
      · have hne : tokens.length ≠ i := Nat.ne_of_gt hlt
        have hle : Unclosed tokens i →
            closings (tokens.drop (i + 1)) ≤ openings (tokens.drop (i + 1)) :=
          Unclosed.closings_le
        rw [unclosed_concat_of_lt hlt, List.drop_append_of_le_length hlt, openings_append,
          closings_append, hopening, hclosing]
        cases hkind : token.kind with
        | number | operator => grind
        | leftParen => cases k <;> grind
        | rightParen => grind
      · have hnone : ∀ k, (openGroups tokens)[k]? ≠ some tokens.length :=
          fun k hk => Nat.lt_irrefl _ (ih.mp hk).1.lt
        rw [unclosed_concat_length]
        cases hkind : token.kind with
        | number | operator => simpa using hnone k
        | leftParen => cases k <;> simp [hnone, openings, closings]
        | rightParen => simpa using hnone (k + 1)
      · have hnone : ∀ k, (openGroups tokens)[k]? ≠ some i :=
          fun k hk => Nat.lt_asymm hgt (ih.mp hk).1.lt
        have hnot : ¬ Unclosed (tokens ++ [token]) i := fun h => by
          have hlt := h.lt
          rw [List.length_append, List.length_singleton] at hlt
          omega
        cases hkind : token.kind with
        | number | operator => simpa [hnot] using hnone k
        | leftParen => cases k <;> simp [hnone, hnot, Nat.ne_of_lt hgt]
        | rightParen => simpa [hnot] using hnone (k + 1)

/-- The groups that are left open are those of the unclosed parentheses. -/
theorem mem_openGroups_iff : i ∈ openGroups tokens ↔ Unclosed tokens i := by
  rw [List.mem_iff_getElem?]
  simp only [getElem?_openGroups_iff]
  constructor
  · rintro ⟨_, h, -⟩
    exact h
  · intro h
    have hle := h.closings_le
    exact ⟨openings (tokens.drop (i + 1)) - closings (tokens.drop (i + 1)), h, by omega⟩

end

/-! ### What has been given out -/

/-- Whether a token with its index has been given out when the end of the list meets the opening
parenthesis at `q`: some token let it go, or it stands behind the parenthesis. -/
def isOut (tokens : List Token) (q : Nat) (entry : Token × Nat) : Bool :=
  emissionTime tokens entry < tokens.length || q < entry.2

/-- How many tokens have been given out when the end of the list meets the opening parenthesis at
`q`. -/
def givenOut (tokens : List Token) (q : Nat) : Nat :=
  (tokens.zipIdx.filter (!·.1.isParen)).countP (isOut tokens q)

/-- Less is given out than there are tokens, since the parenthesis itself is not. -/
theorem givenOut_lt {tokens : List Token} {q : Nat} (h : kindAt tokens q = some .leftParen) :
    givenOut tokens q < tokens.length := by
  obtain ⟨opening, hopening, hkind⟩ := Option.map_eq_some_iff.mp h
  have hparen : ∃ e ∈ tokens.zipIdx, ¬ (!e.1.isParen) = true :=
    ⟨(opening, q), List.mem_zipIdx_iff_getElem?.mpr hopening, by simp [Token.isParen, hkind]⟩
  calc givenOut tokens q
      ≤ (tokens.zipIdx.filter (!·.1.isParen)).length := List.countP_le_length
    _ < tokens.zipIdx.length := List.length_filter_lt_length_iff_exists.mpr hparen
    _ = tokens.length := List.length_zipIdx

namespace Conversion

variable {tokens : List Token} {state : Conversion} {opening : Token × Nat}
variable {emitted leaving staying : List (Token × Nat)}

/-- At the end the innermost group that waits is the last unclosed parenthesis. -/
theorem Tracks.unclosed
    (h : Tracks tokens tokens state emitted (leaving ++ opening :: staying))
    (hleaving : ∀ e ∈ leaving, e.1.isLeftParen = false) (hopening : opening.1.isLeftParen = true) :
    Unclosed tokens opening.2 ∧ ∀ r, Unclosed tokens r → r ≤ opening.2 := by
  have hgroups : openGroups tokens = opening.2 :: groupsOf staying := by
    rw [h.opened, groupsOf_append hleaving]
    simp [groupsOf, hopening]
  refine ⟨mem_openGroups_iff.mp (by simp [hgroups]), fun r hr => ?_⟩
  rw [← mem_openGroups_iff, hgroups, List.mem_cons] at hr
  rcases hr with rfl | hr
  · exact Nat.le_refl _
  · obtain ⟨e, he, rfl⟩ := List.mem_map.mp hr
    exact Nat.le_of_lt (h.nested.below.2.1 e (List.mem_filter.mp he).1)

/-- What has left when the end meets a parenthesis is what some token let go, and what waited above
the parenthesis: the tokens behind it. -/
theorem Tracks.givenOut_eq
    (h : Tracks tokens tokens state emitted (leaving ++ opening :: staying))
    (hleaving : ∀ e ∈ leaving, e.1.isLeftParen = false) (hopening : opening.1.isLeftParen = true) :
    givenOut tokens opening.2 = leaving.length + emitted.length := by
  have hemitted : emitted.countP (isOut tokens opening.2) = emitted.length := by
    rw [List.countP_eq_length]
    exact fun e he => by simp [isOut, h.due e he]
  have habove : leaving.countP (isOut tokens opening.2) = leaving.length := by
    rw [List.countP_eq_length]
    have hlater := (List.pairwise_append.mp h.nested.pairwise).2.2
    exact fun e he => by simp [isOut, hlater e he opening (by simp)]
  have hbelow : (staying.filter (!·.1.isLeftParen)).countP (isOut tokens opening.2) = 0 := by
    rw [List.countP_eq_zero]
    intro e he
    obtain ⟨hmem, hleft⟩ := List.mem_filter.mp he
    have hoperator : e.1.kind = .operator :=
      (h.kinds e (by simp [hmem])).resolve_left (by simpa using hleft)
    have htime := emissionTime_eq_length (by simp [hoperator]) (h.held e (by simp [hmem]) hoperator)
    have hbefore := h.nested.below.2.1 e hmem
    simp [isOut, htime, Nat.le_of_lt hbefore]
  have hall : (leaving ++ opening :: staying).filter (!·.1.isLeftParen) =
      leaving ++ staying.filter (!·.1.isLeftParen) := by
    rw [List.filter_append, List.filter_cons_of_neg (by simp [hopening]),
      List.filter_eq_self.mpr fun e he => by simp [hleaving e he]]
  rw [givenOut, ← h.complete.countP_eq, hall, List.countP_append, List.countP_append, hemitted,
    habove, hbelow]
  omega

end Conversion

/-! ### Reported positions -/

/-- At the position there is a defect of the reported family: the closing parenthesis of an empty
group, a closing parenthesis that closes nothing, or an opening one that nothing closes. -/
def Locates (tokens : List Token) (reason : String) (p : Nat) : Prop :=
  reason = "empty_group" ∧ ClosesEmpty tokens p ∨
    reason = "unbalanced_parentheses" ∧ (ClosesNothing tokens p ∨ Unclosed tokens p)

section

variable {tokens : List Token}

/-- Where nothing is misplaced but the list is refused, the end has met the last unclosed
parenthesis. -/
theorem toPostfix_of_placed {defect : Defect} (hplaced : ∀ q, ¬ Misplaced tokens q)
    (h : toPostfix tokens = .error defect) :
    ∃ q, Unclosed tokens q ∧ (∀ r, Unclosed tokens r → r ≤ q) ∧
      defect = .unclosed (givenOut tokens q) := by
  obtain ⟨last, hrun, -⟩ := Conversion.run_of_placed hplaced
  have hfinish : last.finish = .error defect := by rwa [toPostfix, hrun] at h
  have hdepth : last.depth ≠ 0 := fun hzero => by
    obtain ⟨listing, hlisting⟩ := Conversion.exists_finish_of_depth hzero
    simp [hlisting] at hfinish
  obtain ⟨above, paren, below, hpending, habove, hparen⟩ :=
    Conversion.exists_group_of_depth hdepth
  obtain ⟨emitted, pending, htracks⟩ := (Conversion.tracks_start tokens).run rfl hrun
  -- the waiting tokens with their indexes
  obtain ⟨leaving, rest, rfl, rfl, hrest⟩ :=
    List.map_eq_append_iff.mp (htracks.pending_eq.trans hpending)
  obtain ⟨opening, staying, rfl, rfl, rfl⟩ := List.map_eq_cons_iff.mp hrest
  have hleaving : ∀ e ∈ leaving, e.1.isLeftParen = false :=
    fun e he => habove e.1 (List.mem_map_of_mem he)
  obtain ⟨hunclosed, hlast⟩ := htracks.unclosed hleaving hparen
  refine ⟨opening.2, hunclosed, hlast, ?_⟩
  rw [Conversion.finish_of_append hpending habove hparen] at hfinish
  rw [htracks.givenOut_eq hleaving hparen, ← Except.error.inj hfinish, ← htracks.emitted_eq,
    List.length_map, List.length_map]

/-- Where something is misplaced, the first such parenthesis is what the list is refused for. -/
theorem toPostfix_of_misplaced (h : ∃ q, Misplaced tokens q) :
    ∃ defect p, toPostfix tokens = .error defect ∧ defect.details = [("position", .nat p)] ∧
      p < tokens.length ∧ (∀ q < p, ¬ Misplaced tokens q) ∧ Locates tokens defect.reason p := by
  obtain ⟨p, hfirst, ⟨hempty, hdefect⟩ | ⟨hnothing, hdefect⟩⟩ := exists_first_misplaced h
  · exact ⟨_, p, hdefect, rfl, lt_of_kindAt hempty.1, hfirst, Or.inl ⟨rfl, hempty⟩⟩
  · exact ⟨_, p, hdefect, rfl, lt_of_kindAt hnothing.1, hfirst, Or.inr ⟨rfl, Or.inl hnothing⟩⟩

/-- **What position a refusal reports.** A list that is refused is malformed, and the position that
is reported is always an index of it. If a closing parenthesis is out of place, it is the index of
the first of these, and the defect is there. Otherwise the last unclosed parenthesis is what the
list is refused for, but what is reported is how many tokens were given out before it was met; a
defect is there only if the count happens to be the index of an unclosed parenthesis. -/
theorem convert_error_position {fault : Fault} (h : (convert tokens).value = .error fault) :
    ∃ problem reason p, fault = .problem problem ∧
      problem.IsMalformedFor reason [("position", .nat p)] ∧ p < tokens.length ∧
      ((∃ q, Misplaced tokens q) →
        (∀ q < p, ¬ Misplaced tokens q) ∧ Locates tokens reason p) ∧
      ((∀ q, ¬ Misplaced tokens q) →
        reason = "unbalanced_parentheses" ∧
          (∃ q, Unclosed tokens q ∧ (∀ r, Unclosed tokens r → r ≤ q) ∧ p = givenOut tokens q) ∧
          (Locates tokens reason p ↔ Unclosed tokens p)) := by
  by_cases hmisplaced : ∃ q, Misplaced tokens q
  · obtain ⟨defect, p, hdefect, hdetails, hlt, hfirst, hlocates⟩ :=
      toPostfix_of_misplaced hmisplaced
    obtain ⟨problem, hproblem, hmalformed⟩ := convert_of_defect hdefect
    rw [hdetails] at hmalformed
    refine ⟨problem, defect.reason, p, ?_, hmalformed, hlt, fun _ => ⟨hfirst, hlocates⟩, ?_⟩
    · exact Except.error.inj (h.symm.trans hproblem)
    · intro hplaced
      obtain ⟨q, hq⟩ := hmisplaced
      exact absurd hq (hplaced q)
  · have hplaced : ∀ q, ¬ Misplaced tokens q := fun q hq => hmisplaced ⟨q, hq⟩
    cases hdefect : toPostfix tokens with
    | ok listing => simp [convert_value, hdefect, Except.mapError] at h
    | error defect =>
        obtain ⟨q, hunclosed, hlast, rfl⟩ := toPostfix_of_placed hplaced hdefect
        obtain ⟨problem, hproblem, hmalformed⟩ := convert_of_defect hdefect
        refine ⟨problem, _, givenOut tokens q, Except.error.inj (h.symm.trans hproblem), hmalformed,
          givenOut_lt hunclosed.1, fun hsome => absurd hsome hmisplaced, fun _ => ?_⟩
        refine ⟨rfl, ⟨q, hunclosed, hlast, rfl⟩, ?_, fun hopen => Or.inr ⟨rfl, Or.inr hopen⟩⟩
        rintro (⟨hreason, -⟩ | ⟨-, hnothing | hopen⟩)
        · simp [Defect.reason] at hreason
        · exact absurd (Or.inr hnothing) (hplaced _)
        · exact hopen

/-- The list `( 1 + ( 2` is refused for its second parenthesis, which was met when the two numbers
had been given out. -/
theorem convert_error_position_nested :
    let number (text : String) : Token := { kind := .number, text }
    let opening : Token := { kind := .leftParen, text := "(" }
    let plus : Token := { kind := .operator, text := Operator.plus.symbol }
    let tokens : List Token := [opening, number "1", plus, opening, number "2"]
    ∃ fault, (convert tokens).value = .error fault ∧
      ∃ problem p, fault = .problem problem ∧
        problem.IsMalformedFor "unbalanced_parentheses" [("position", .nat p)] ∧
        ∃ q, Unclosed tokens q ∧ p = givenOut tokens q := by
  intro number opening plus tokens
  have hplaced : ∀ q, ¬ Misplaced tokens q := by
    have hnone : ∀ q < tokens.length, kindAt tokens q ≠ some .rightParen := by decide
    rintro q (⟨hclosing, -⟩ | ⟨hclosing, -⟩) <;> exact hnone q (lt_of_kindAt hclosing) hclosing
  have hvalue : (convert tokens).value =
      .error (ExpressionError.malformed (.unclosed 2)).toFault := by rfl
  obtain ⟨problem, reason, p, hfault, hmalformed, -, -, hlast⟩ := convert_error_position hvalue
  obtain ⟨rfl, ⟨q, hunclosed, -, hp⟩, -⟩ := hlast hplaced
  exact ⟨_, hvalue, problem, p, hfault, hmalformed, q, hunclosed, hp⟩

/-- The list `( 1` is refused with position 1, where the number is, and not with position 0, where
the unclosed parenthesis is. -/
theorem convert_unclosed_number :
    let opening : Token := { kind := .leftParen, text := "(" }
    let one : Token := { kind := .number, text := "1" }
    ∃ problem, (convert [opening, one]).value = .error (.problem problem) ∧
      problem.IsMalformedFor "unbalanced_parentheses" [("position", .nat 1)] ∧
      kindAt [opening, one] 1 = some .number ∧
      ¬ Locates [opening, one] "unbalanced_parentheses" 1 ∧ Unclosed [opening, one] 0 := by
  intro opening one
  refine ⟨_, rfl, ⟨rfl, rfl, rfl⟩, rfl, ?_, ?_⟩
  · rintro (⟨hreason, -⟩ | ⟨-, ⟨hclosing, -⟩ | ⟨hopening, -⟩⟩)
    · simp at hreason
    · simp [kindAt, one] at hclosing
    · simp [kindAt, one] at hopening
  · rw [← mem_openGroups_iff]
    decide

end

end Calculator
