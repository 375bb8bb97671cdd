import Calculator.Proofs.Infix.Alternation
import Calculator.Proofs.Token.Reading

/-!
# From spaced spellings to fragments

Tokens in which operands and operators come in turn can be written down with any blanks between
them, or none, and are found again as the fragments of the text. Every minus sign is understood
from what stands before it: where an operand is due it belongs to a literal, and behind an operand
it is a subtraction.

## Main definitions

* `Spaced`: words in order, with blanks before, between and behind them.
* `Fragment.pieces`: a spelling as it is cut, a sign apart from its digits.

## Main results

* `Fragment.cut_of_spaced`: a spaced text is cut into the pieces of the spellings.
* `Fragment.joinSigns_pieces`: the pieces are joined to the spellings again.
* `Fragment.split_of_spaced`: **the fragments of a spaced text are the spellings of its tokens**.
-/

namespace Calculator

/-- The words stand in the text in order, with blanks, possibly none, before, between and behind
them. -/
inductive Spaced : List (List Char) → List Char → Prop
  | nil {blanks : List Char} (hblanks : ∀ c ∈ blanks, Text.isBlank c = true) : Spaced [] blanks
  | cons {blanks word chars : List Char} {words : List (List Char)}
      (hblanks : ∀ c ∈ blanks, Text.isBlank c = true) (hrest : Spaced words chars) :
      Spaced (word :: words) (blanks ++ word ++ chars)

namespace Fragment

/-! ### Characters -/

/-- A character that neither separates words nor stands alone. -/
def IsPlain (c : Char) : Prop := Text.isBlank c = false ∧ isSymbol c = false

/-- A character that ends a run of plain ones. -/
def Ends (c : Char) : Prop := Text.isBlank c = true ∨ isSymbol c = true

/-- A symbol is no blank. -/
theorem isBlank_of_isSymbol {c : Char} (h : isSymbol c = true) : Text.isBlank c = false := by
  simp only [isSymbol, Bool.or_eq_true, decide_eq_true_eq] at h
  rcases h with (((((rfl | rfl) | rfl) | rfl) | rfl) | rfl) | rfl <;> decide

/-- A digit is plain. -/
theorem isPlain_of_isDigit {c : Char} (h : Numeral.isDigit c = true) : IsPlain c := by
  simp only [Numeral.isDigit, decide_eq_true_eq, Char.le_def, UInt32.le_iff_toNat_le] at h
  constructor
  · simp only [Text.isBlank, Bool.or_eq_false_iff, Bool.and_eq_false_iff, decide_eq_false_iff_not,
      beq_eq_false_iff_ne, ne_eq]
    have hlow : 48 ≤ c.val.toNat := h.1
    have hhigh : c.val.toNat ≤ 57 := h.2
    omega
  · by_contra hsymbol
    simp only [isSymbol, Bool.not_eq_false, Bool.or_eq_true, decide_eq_true_eq] at hsymbol
    rcases hsymbol with (((((rfl | rfl) | rfl) | rfl) | rfl) | rfl) | rfl <;> revert h <;> decide

/-- The characters of a literal without a sign are plain. -/
theorem isPlain_of_unsigned {chars : List Char} (h : Numeral.Unsigned chars) :
    ∀ c ∈ chars, IsPlain c := by
  intro c hc
  rcases h.isDigit_or_eq c hc with hdigit | rfl
  · exact isPlain_of_isDigit hdigit
  · exact ⟨by decide, by decide⟩

/-- Every token but a number is spelled as a single symbol, and only operators as a minus sign. -/
theorem exists_symbol {token : Token} (h : token.Spelled) (hkind : token.kind ≠ .number) :
    ∃ c, token.text.toList = [c] ∧ isSymbol c = true ∧ (c = ')' ↔ token.kind = .rightParen) ∧
      (c = '-' → token.kind = .operator) := by
  cases h with
  | number => exact absurd rfl hkind
  | operator o => cases o <;> exact ⟨_, rfl, by decide, by decide, by decide⟩
  | leftParen => exact ⟨'(', rfl, by decide, by decide, by decide⟩
  | rightParen => exact ⟨')', rfl, by decide, by decide, by decide⟩

/-- A number is spelled as a literal. -/
theorem literal_of_number {token : Token} (h : token.Spelled) (hkind : token.kind = .number) :
    Numeral.Literal token.text.toList := by
  cases h with
  | number hliteral => exact hliteral
  | operator o => simp at hkind
  | leftParen => simp at hkind
  | rightParen => simp at hkind

/-! ### Cutting -/

/-- A spelling as it is cut: a sign stands apart from the digits behind it. -/
def pieces : List Char → List (List Char)
  | '-' :: c :: rest => [['-'], c :: rest]
  | spelling => [spelling]

/-- A literal without a sign is one piece. -/
theorem pieces_unsigned {chars : List Char} (h : Numeral.Unsigned chars) :
    pieces chars = [chars] := by
  unfold pieces
  split
  · have hminus := (isPlain_of_unsigned h '-' (by simp)).2
    exact absurd hminus (by decide)
  · rfl

/-- A literal with a sign is two pieces. -/
theorem pieces_signed {chars : List Char} (h : Numeral.Unsigned chars) :
    pieces ('-' :: chars) = [['-'], chars] := by
  obtain ⟨c, rest, rfl⟩ := List.exists_cons_of_ne_nil h.ne_nil
  rfl

/-- A single character is one piece. -/
theorem pieces_singleton (c : Char) : pieces [c] = [[c]] := by
  unfold pieces
  split
  · simp_all
  · rfl

/-- Blanks between fragments are skipped. -/
private theorem collect_blanks {blanks : List Char} (done : List (List Char)) (rest : List Char)
    (h : ∀ c ∈ blanks, Text.isBlank c = true) :
    collect done [] (blanks ++ rest) = collect done [] rest := by
  induction blanks with
  | nil => rfl
  | cons c blanks ih =>
      obtain ⟨hc, hblanks⟩ := List.forall_mem_cons.mp h
      simp only [List.cons_append, collect, hc, if_true, Text.closeWord]
      exact ih hblanks

/-- A symbol is a fragment. -/
private theorem collect_symbol {c : Char} (done : List (List Char)) (rest : List Char)
    (h : isSymbol c = true) : collect done [] (c :: rest) = collect ([c] :: done) [] rest := by
  simp only [collect, isBlank_of_isSymbol h, h, Bool.false_eq_true, if_false, if_true,
    Text.closeWord]

/-- Plain characters are collected. -/
private theorem collect_plain {chars : List Char} (done : List (List Char))
    (word rest : List Char) (h : ∀ c ∈ chars, IsPlain c) :
    collect done word (chars ++ rest) = collect done (chars.reverse ++ word) rest := by
  induction chars generalizing word with
  | nil => rfl
  | cons c chars ih =>
      obtain ⟨⟨hblank, hsymbol⟩, hchars⟩ := List.forall_mem_cons.mp h
      simp only [List.cons_append, collect, hblank, hsymbol, Bool.false_eq_true, if_false]
      rw [ih (c :: word) hchars]
      simp

/-- What was collected is a fragment where the run ends. -/
private theorem collect_end {word : List Char} (done : List (List Char)) (rest : List Char)
    (hne : word ≠ []) (hrest : ∀ c ∈ rest.head?, Ends c) :
    collect done word rest = collect (word.reverse :: done) [] rest := by
  have hclose : Text.closeWord word done = word.reverse :: done := by
    obtain ⟨c, chars, rfl⟩ := List.exists_cons_of_ne_nil hne
    rfl
  have hempty : Text.closeWord [] (word.reverse :: done) = word.reverse :: done := rfl
  rcases rest with - | ⟨c, rest⟩
  · simp only [collect, hclose, hempty]
  · rcases hrest c rfl with hblank | hsymbol
    · simp only [collect, hblank, if_true, hclose, hempty]
    · simp only [collect, isBlank_of_isSymbol hsymbol, hsymbol, Bool.false_eq_true, if_false,
        if_true, hclose, hempty]

/-- A run of plain characters is a fragment. -/
private theorem collect_run {chars : List Char} (done : List (List Char)) (rest : List Char)
    (hne : chars ≠ []) (hplain : ∀ c ∈ chars, IsPlain c) (hrest : ∀ c ∈ rest.head?, Ends c) :
    collect done [] (chars ++ rest) = collect (chars :: done) [] rest := by
  rw [collect_plain done [] rest hplain, List.append_nil,
    collect_end done rest (by simpa using hne) hrest, List.reverse_reverse]

/-- A literal is cut into its pieces where its run ends. -/
private theorem collect_literal {chars : List Char} (h : Numeral.Literal chars)
    (done : List (List Char)) (rest : List Char) (hrest : ∀ c ∈ rest.head?, Ends c) :
    collect done [] (chars ++ rest) = collect ((pieces chars).reverse ++ done) [] rest := by
  cases h with
  | unsigned hunsigned =>
      rw [pieces_unsigned hunsigned,
        collect_run done rest hunsigned.ne_nil (isPlain_of_unsigned hunsigned) hrest]
      rfl
  | signed hunsigned =>
      rw [pieces_signed hunsigned, List.cons_append, collect_symbol done _ (by decide),
        collect_run _ rest hunsigned.ne_nil (isPlain_of_unsigned hunsigned) hrest]
      rfl

/-- Tokens in turn, written with blanks, are cut into the pieces of their spellings. The text ends
the run of a number before it if no operand is due. -/
private theorem collect_spaced {tokens : List Token} {phase last : Phase} {chars : List Char}
    (hspelled : ∀ t ∈ tokens, t.Spelled) (hafter : phase.after tokens = some last)
    (hspaced : Spaced (tokens.map (·.text.toList)) chars) :
    (phase = .operator → ∀ c ∈ chars.head?, Ends c) ∧
      ∀ done, collect done [] chars =
        done.reverse ++ tokens.flatMap (fun t => pieces t.text.toList) := by
  induction tokens generalizing phase chars with
  | nil =>
      cases hspaced with
      | nil hblanks =>
          refine ⟨fun _ c hc => Or.inl (hblanks c (List.mem_of_mem_head? hc)), fun done => ?_⟩
          have hcollect := collect_blanks done [] hblanks
          rw [List.append_nil] at hcollect
          simp [hcollect, collect, Text.closeWord]
  | cons token tokens ih =>
      obtain ⟨htoken, htokens⟩ := List.forall_mem_cons.mp hspelled
      obtain ⟨q, hnext, hq⟩ := Option.bind_eq_some_iff.mp hafter
      rw [List.map_cons] at hspaced
      cases hspaced with
      | @cons blanks _ rest _ hblanks hrest =>
          obtain ⟨hends, hcollect⟩ := ih htokens hq hrest
          by_cases hkind : token.kind = .number
          · have hliteral := literal_of_number htoken hkind
            have hphase : phase = .operand ∧ q = .operator := by
              cases phase <;> simp_all [Phase.next]
            refine ⟨fun h => by simp [hphase.1] at h, fun done => ?_⟩
            rw [List.append_assoc, collect_blanks done _ hblanks,
              collect_literal hliteral done rest (hends hphase.2), hcollect]
            simp
          · obtain ⟨c, hchars, hsymbol, -⟩ := exists_symbol htoken hkind
            rw [hchars]
            constructor
            · intro _ d hd
              rcases blanks with - | ⟨b, blanks⟩
              · obtain rfl : c = d := by simpa using hd
                exact Or.inr hsymbol
              · obtain rfl : b = d := by simpa using hd
                exact Or.inl (hblanks b (by simp))
            · intro done
              rw [List.append_assoc, collect_blanks done _ hblanks, List.singleton_append,
                collect_symbol done rest hsymbol, hcollect]
              simp [hchars, pieces_singleton]

/-- A spaced text is cut into the pieces of the spellings. -/
theorem cut_of_spaced {tokens : List Token} {phase last : Phase} {chars : List Char}
    (hspelled : ∀ t ∈ tokens, t.Spelled) (hafter : phase.after tokens = some last)
    (hspaced : Spaced (tokens.map (·.text.toList)) chars) :
    cut chars = tokens.flatMap (fun t => pieces t.text.toList) := by
  rw [cut, (collect_spaced hspelled hafter hspaced).2]
  rfl

/-! ### Joining -/

/-- A fragment stays as it is unless it is a minus sign where an operand is due. -/
private theorem joinInto_cons {fragment : List Char} (done rest : List (List Char))
    (h : fragment ≠ ['-'] ∨ opensOperand done.head? = false) :
    joinInto done (fragment :: rest) = joinInto (fragment :: done) rest := by
  rcases rest with - | ⟨next, rest⟩
  · simp [joinInto]
  · rcases h with h | h <;> simp [joinInto, h]

/-- A sign where an operand is due is joined with its literal. -/
private theorem joinInto_signed {chars : List Char} (done rest : List (List Char))
    (h : Numeral.Unsigned chars) (hopens : opensOperand done.head? = true) :
    joinInto done (['-'] :: chars :: rest) = joinInto (('-' :: chars) :: done) rest := by
  have hliteral : Numeral.isLiteral chars = true := (Numeral.isLiteral_iff _).mpr (.unsigned h)
  simp [joinInto, hopens, hliteral]

/-- No operand is due behind a literal. -/
theorem opensOperand_literal {chars : List Char} (h : Numeral.Literal chars) :
    opensOperand (some chars) = false := by
  cases h with
  | signed h =>
      obtain ⟨c, rest, rfl⟩ := List.exists_cons_of_ne_nil h.ne_nil
      rfl
  | unsigned h =>
      rcases chars with - | ⟨c, - | ⟨d, rest⟩⟩
      · rfl
      · simp [opensOperand, (isPlain_of_unsigned h c (by simp)).2]
      · rfl

/-- The spelling of a token tells whether an operand is due behind it. -/
private theorem opensOperand_spelling {token : Token} {phase next : Phase} (h : token.Spelled)
    (hnext : phase.next token.kind = some next) :
    opensOperand (some token.text.toList) = decide (next = .operand) := by
  by_cases hkind : token.kind = .number
  · rw [opensOperand_literal (literal_of_number h hkind)]
    cases phase <;> simp [Phase.next, hkind] at hnext
    simp [← hnext]
  · obtain ⟨c, hchars, hsymbol, hclosing, -⟩ := exists_symbol h hkind
    simp only [hchars, opensOperand, hsymbol, Bool.true_and, ne_eq, hclosing]
    cases hk : token.kind <;> cases phase <;> simp [Phase.next, hk] at hnext hkind ⊢ <;>
      simp [← hnext]

/-- A literal where an operand is due is joined from its pieces. -/
private theorem joinInto_literal {chars : List Char} {done : List (List Char)}
    (rest : List (List Char)) (h : Numeral.Literal chars)
    (hopens : opensOperand done.head? = true) :
    joinInto done (pieces chars ++ rest) = joinInto (chars :: done) rest := by
  cases h with
  | unsigned hunsigned =>
      rw [pieces_unsigned hunsigned, List.singleton_append]
      refine joinInto_cons done rest (Or.inl ?_)
      rintro rfl
      exact absurd (isPlain_of_unsigned hunsigned '-' (by simp)).2 (by decide)
  | signed hunsigned =>
      rw [pieces_signed hunsigned]
      exact joinInto_signed done rest hunsigned hopens

/-- A token that is in place is joined from its pieces. -/
private theorem joinInto_token {token : Token} {phase next : Phase} {done : List (List Char)}
    (rest : List (List Char)) (h : token.Spelled) (hnext : phase.next token.kind = some next)
    (hdone : opensOperand done.head? = decide (phase = .operand)) :
    joinInto done (pieces token.text.toList ++ rest) =
      joinInto (token.text.toList :: done) rest := by
  by_cases hkind : token.kind = .number
  · have hphase : phase = .operand := by
      cases phase <;> simp [Phase.next, hkind] at hnext ⊢
    exact joinInto_literal rest (literal_of_number h hkind) (by simp [hdone, hphase])
  · obtain ⟨c, hchars, -, -, hminus⟩ := exists_symbol h hkind
    rw [hchars, pieces_singleton, List.singleton_append]
    refine joinInto_cons done rest ?_
    by_cases hc : c = '-'
    · have hphase : phase = .operator := by
        cases phase <;> simp [Phase.next, hminus hc] at hnext ⊢
      exact Or.inr (by simp [hdone, hphase])
    · exact Or.inl (by simpa using hc)

/-- The pieces of tokens in turn are joined to their spellings. -/
private theorem joinInto_pieces {tokens : List Token} {phase last : Phase}
    {done : List (List Char)} (hspelled : ∀ t ∈ tokens, t.Spelled)
    (hafter : phase.after tokens = some last)
    (hdone : opensOperand done.head? = decide (phase = .operand)) :
    joinInto done (tokens.flatMap (fun t => pieces t.text.toList)) =
      done.reverse ++ tokens.map (·.text.toList) := by
  induction tokens generalizing phase done with
  | nil => simp [joinInto]
  | cons token tokens ih =>
      obtain ⟨htoken, htokens⟩ := List.forall_mem_cons.mp hspelled
      obtain ⟨q, hnext, hq⟩ := Option.bind_eq_some_iff.mp hafter
      have hopens : opensOperand (token.text.toList :: done).head? = decide (q = .operand) :=
        opensOperand_spelling htoken hnext
      rw [List.flatMap_cons, joinInto_token _ htoken hnext hdone, ih htokens hq hopens]
      simp

/-- The pieces of tokens in turn, the first of which starts an operand, are joined to their
spellings. -/
theorem joinSigns_pieces {tokens : List Token} {last : Phase}
    (hspelled : ∀ t ∈ tokens, t.Spelled) (hafter : Phase.operand.after tokens = some last) :
    joinSigns (tokens.flatMap (fun t => pieces t.text.toList)) = tokens.map (·.text.toList) :=
  joinInto_pieces hspelled hafter rfl

/-- **The fragments of a spaced text are the spellings of its tokens**, if operands and operators
come in turn. -/
theorem split_of_spaced {tokens : List Token} {last : Phase} {text : String}
    (hspelled : ∀ t ∈ tokens, t.Spelled) (hafter : Phase.operand.after tokens = some last)
    (hspaced : Spaced (tokens.map (·.text.toList)) text.toList) :
    split text = tokens.map (·.text) := by
  rw [split, cut_of_spaced hspelled hafter hspaced, joinSigns_pieces hspelled hafter]
  simp [List.map_map, Function.comp_def]

end Fragment

end Calculator
