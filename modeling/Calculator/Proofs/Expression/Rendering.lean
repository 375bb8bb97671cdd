import Calculator.Proofs.Expression.Outcome
import Calculator.Proofs.Infix.Grammar

/-!
# Rendered formulas

A `Formula` is a tree of operations on number literals. It can be written down in many ways: with
the parentheses that binding strength and grouping from the left ask for, with more of them, and
with blanks anywhere between the tokens. Each of these texts is read as what was written.

## Main definitions

* `Formula`, `Formula.postfixTexts`.
* `Formula.HasValue`: the value of a formula, from the decimals that its literals spell.
* `Rendering`: the token lists that a formula may be written as.

## Main results

* `Formula.HasValue.unique`, `Formula.hasValue_value`: every formula has one value.
* `Rendering.derives`: a rendering is a phrase of the grammar, with the tree of the formula.
* `evaluates_of_rendering`: **what is rendered is tokenized, converted and evaluated as the formula
  says**.
-/

namespace Calculator

/-! ### Formulas -/

/-- A tree of operations on number literals. -/
inductive Formula where
  /-- A literal. -/
  | literal (text : String) (h : Numeral.Literal text.toList)
  /-- An operation on two formulas. -/
  | operation (operator : Operator) (left right : Formula)

/-- The token of a literal. -/
def Token.ofLiteral (text : String) : Token :=
  { kind := .number, text, value := some (Numeral.value text.toList) }

/-- The token of an operator. -/
def Token.ofOperator (o : Operator) : Token := { kind := .operator, text := o.symbol }

/-- The token of an opening parenthesis. -/
def Token.opening : Token := { kind := .leftParen, text := "(" }

/-- The token of a closing parenthesis. -/
def Token.closing : Token := { kind := .rightParen, text := ")" }

/-- The sign of an operator. -/
def Sign.ofOperator (o : Operator) : Sign := ⟨.ofOperator o, o, rfl, rfl⟩

namespace Formula

/-- The value that the literals of a formula are read with. -/
def value : Formula → Float
  | literal text _ => Numeral.value text.toList
  | operation o left right => o.apply left.value right.value

/-- The value of a formula in double precision. A literal has the float nearest to the decimal that
it spells, with the sign that it spells, and an operation is applied to the values of its
operands. -/
inductive HasValue : Formula → Float → Prop
  | positive {text : String} {h : Numeral.Literal text.toList} {n places : Nat}
      (hspells : Numeral.Spells text.toList false n places) :
      HasValue (literal text h) (Float.ofScientific n (0 < places) places)
  | negative {text : String} {h : Numeral.Literal text.toList} {n places : Nat}
      (hspells : Numeral.Spells text.toList true n places) :
      HasValue (literal text h) (-(Float.ofScientific n (0 < places) places))
  | operation {o : Operator} {left right : Formula} {a b x : Float} (hleft : HasValue left a)
      (hright : HasValue right b) (happly : applyOperator o.symbol a b = .ok x) :
      HasValue (operation o left right) x

/-- The texts in post-order: those of the left operand, those of the right operand, the sign. -/
def postfixTexts : Formula → List String
  | literal text _ => [text]
  | operation o left right => left.postfixTexts ++ right.postfixTexts ++ [o.symbol]

/-- The formula as a tree of tokens. -/
def tree : Formula → Tree
  | literal text _ => .operand ⟨.ofLiteral text, rfl⟩
  | operation o left right => .operation (.ofOperator o) left.tree right.tree

/-- The tree has the value of the formula. -/
theorem value_tree (f : Formula) : f.tree.value Token.toFloat Operator.apply = f.value := by
  induction f with
  | literal text h => rfl
  | operation o left right ihl ihr =>
      simp only [tree, Tree.value, ihl, ihr, value]
      rfl

/-- The tree is listed by the texts of the formula. -/
theorem map_text_listing (f : Formula) : f.tree.listing.map (·.text) = f.postfixTexts := by
  induction f with
  | literal text h => rfl
  | operation o left right ihl ihr =>
      simp only [tree, Tree.listing, List.map_append, ihl, ihr, postfixTexts]
      rfl

/-- The sign of an operator stands for the operation. -/
theorem applyOperator_symbol (o : Operator) (a b : Float) :
    applyOperator o.symbol a b = .ok (o.apply a b) := by
  simp [applyOperator, Arithmetic.float, Operator.ofSymbol?_symbol]

/-- A formula is read with its value. -/
theorem hasValue_value (f : Formula) : f.HasValue f.value := by
  induction f with
  | literal text h =>
      obtain ⟨negative, n, places, hspells⟩ := h.exists_spells
      rw [value, Numeral.value_of_spells hspells]
      cases negative with
      | false => exact .positive hspells
      | true => exact .negative hspells
  | operation o left right ihleft ihright =>
      exact .operation ihleft ihright (applyOperator_symbol o left.value right.value)

/-- A formula has one value. -/
theorem HasValue.unique {f : Formula} {x : Float} (h : f.HasValue x) : x = f.value := by
  induction h with
  | positive hspells => simp [value, Numeral.value_of_spells hspells]
  | negative hspells => simp [value, Numeral.value_of_spells hspells]
  | @operation o left right a b x _ _ happly ihleft ihright =>
      rw [applyOperator_symbol, ihleft, ihright] at happly
      exact (Except.ok.inj happly).symm

end Formula

/-! ### Renderings -/

/-- `Rendering c f tokens`: the formula may be written as the tokens, and what is written binds as
tightly as phrases of category `c` do. The left operand of an operator has to bind at least as
tightly as the operator, and the right one more tightly; parentheses make anything bind tightly
enough, and they may stand around anything. -/
inductive Rendering : Category → Formula → List Token → Prop
  | literal {text : String} (h : Numeral.Literal text.toList) :
      Rendering .atom (.literal text h) [.ofLiteral text]
  | group {c : Category} {f : Formula} {inner : List Token} (h : Rendering c f inner) :
      Rendering .atom f (.opening :: (inner ++ [.closing]))
  | operation {c a b : Category} {o : Operator} {f g : Formula} {left right : List Token}
      (ho : o ∈ c.operators) (hleft : Rendering a f left) (hright : Rendering b g right)
      (ha : c.strength ≤ a.strength) (hb : c.strength < b.strength) :
      Rendering c (.operation o f g) (left ++ .ofOperator o :: right)

/-- Every phrase binds at least as tightly as an expression. -/
theorem Category.strength_expression_le (c : Category) :
    Category.expression.strength ≤ c.strength := by
  cases c <;> decide

/-- What binds more tightly than a category binds as tightly as its right operands have to. -/
theorem Category.strength_tighter_le {c b : Category} (h : c.strength < b.strength) :
    c.tighter.strength ≤ b.strength := by
  cases c <;> cases b <;> simp_all [Category.strength, Category.tighter]

/-- A phrase that binds tightly is a phrase of every looser category. -/
theorem Derives.of_strength_le {a c : Category} {tokens : List Token} {tree : Tree}
    (h : Derives a tokens tree) (hle : c.strength ≤ a.strength) : Derives c tokens tree := by
  cases a <;> cases c <;> simp only [Category.strength, Nat.reduceLeDiff] at hle
  case expression.expression | term.term | factor.factor | atom.atom => exact h
  case term.expression => exact .lift h
  case factor.term => exact .lift h
  case factor.expression => exact .lift (.lift h)
  case atom.factor => exact .lift h
  case atom.term => exact .lift (.lift h)
  case atom.expression => exact .lift (.lift (.lift h))

/-- A phrase is a token list of the grammar that does not say how it groups. -/
theorem Derives.isInfix {c : Category} {tokens : List Token} {tree : Tree}
    (h : Derives c tokens tree) : Infix tokens := by
  induction h with
  | number o => exact .number o.kind_eq
  | group hopening hclosing _ ih => exact .group hopening hclosing ih
  | operation sign _ _ _ ihleft ihright => exact .operation sign ihleft ihright
  | lift _ ih => exact ih

namespace Rendering

variable {c : Category} {f : Formula} {tokens : List Token}

/-- A rendering is a phrase of the grammar, with the tree of the formula. -/
theorem derives (h : Rendering c f tokens) : Derives c tokens f.tree := by
  induction h with
  | literal h => exact .number ⟨.ofLiteral _, rfl⟩
  | @group c _ _ _ ih => exact .group rfl rfl (ih.of_strength_le c.strength_expression_le)
  | operation ho _ _ ha hb ihleft ihright =>
      exact .operation (.ofOperator _) ho (ihleft.of_strength_le ha)
        (ihright.of_strength_le (Category.strength_tighter_le hb))

/-- The tokens of a rendering are spelled as texts are read. -/
theorem spelled (h : Rendering c f tokens) : ∀ token ∈ tokens, token.Spelled := by
  induction h with
  | literal h => exact List.forall_mem_singleton.mpr (.number h)
  | group _ ih =>
      intro token ht
      simp only [List.mem_cons, List.mem_append, List.not_mem_nil, or_false] at ht
      rcases ht with rfl | ht | rfl
      · exact .leftParen
      · exact ih token ht
      · exact .rightParen
  | operation _ _ _ _ _ ihleft ihright =>
      intro token ht
      simp only [List.mem_append, List.mem_cons] at ht
      rcases ht with ht | rfl | ht
      · exact ihleft token ht
      · exact .operator _
      · exact ihright token ht

/-- A rendering has at least one token. -/
theorem ne_nil (h : Rendering c f tokens) : tokens ≠ [] := by
  cases h <;> simp

end Rendering

/-! ### From the text to the value -/

/-- **What is rendered is read as it was meant.** For every formula, every rendering of it, every
text that spaces the tokens of the rendering, and every limit that the text keeps: the text is
tokenized to exactly these tokens, its postfix form is that of the formula, and it evaluates to the
one value that the formula has for the decimals that its literals spell. -/
theorem evaluates_of_rendering {c : Category} {f : Formula} {tokens : List Token} {text : String}
    {settings : Settings} {limit : Limit} (hrendering : Rendering c f tokens)
    (hspaced : Spaced (tokens.map (·.text.toList)) text.toList)
    (hlimit : settings.lengthLimit = .ok limit)
    (hlength : limit.isExceededBy text.length = false) :
    tokenize settings text = .ok tokens ∧
      (toPostfixText settings text).outcome = .ok (String.intercalate " " f.postfixTexts) ∧
      ∃ x, f.HasValue x ∧ (∀ y, f.HasValue y → y = x) ∧
        (evaluate settings text).outcome = .ok x := by
  have hderives : Derives .expression tokens f.tree :=
    hrendering.derives.of_strength_le c.strength_expression_le
  have hsplit : Fragment.split text = tokens.map (·.text) :=
    Fragment.split_of_spaced hrendering.spelled hderives.isInfix.after_eq hspaced
  have htokens : tokenize settings text = .ok tokens :=
    tokenize_eq_ok_iff.mpr ⟨limit, hlimit, hlength, hsplit.symm, hrendering.spelled⟩
  have hblank : Text.isBlankText text = false :=
    isBlankText_of_tokenize htokens hrendering.ne_nil
  have hlisting : listingOf settings text = .ok f.tree.listing := by
    simp only [listingOf, htokens, Except.bind, toPostfix_of_derives hderives]
    rfl
  have hvalue : valueOf f.tree.listing = .ok f.value := by
    rw [valueOf, Arithmetic.float_eq_of, evaluatePostfix_listing, f.value_tree]
    rfl
  refine ⟨htokens, ?_, f.value, f.hasValue_value, fun y hy => hy.unique, ?_⟩
  · rw [toPostfixText_outcome, hblank, hlisting, ← f.map_text_listing]
    rfl
  · rw [evaluate_outcome, hblank, hlisting]
    exact hvalue

/-- The text `5--3.5 * ( -.5)^2`: its minus signs are a subtraction and twice part of a literal, and
its value is 5.875. -/
theorem evaluates_of_rendering_signs :
    let text := " 5--3.5 * ( -.5)^2"
    (tokenize {} text).map (fun tokens => tokens.map (·.text)) =
        .ok ["5", "-", "-3.5", "*", "(", "-.5", ")", "^", "2"] ∧
      (toPostfixText {} text).outcome = .ok "5 -3.5 -.5 2 ^ * -" ∧
      (evaluate {} text).outcome = .ok 5.875 := by
  intro text
  have literal (text : String) (h : Numeral.isLiteral text.toList = true) :
      Numeral.Literal text.toList := (Numeral.isLiteral_iff _).mp h
  have hfive : Rendering .atom _ _ := .literal (literal "5" (by decide))
  have hfactor : Rendering .atom _ _ := .literal (literal "-3.5" (by decide))
  have hbase : Rendering .atom _ _ := .group (.literal (literal "-.5" (by decide)))
  have htwo : Rendering .atom _ _ := .literal (literal "2" (by decide))
  have hpower : Rendering .factor _ _ :=
    .operation (show Operator.power ∈ _ by decide) hbase htwo (by decide) (by decide)
  have hproduct : Rendering .term _ _ :=
    .operation (show Operator.times ∈ _ by decide) hfactor hpower (by decide) (by decide)
  have hdifference : Rendering .expression _ _ :=
    .operation (show Operator.minus ∈ _ by decide) hfive hproduct (by decide) (by decide)
  have word {words : List (List Char)} {chars : List Char} (blanks text : String)
      (hblanks : blanks.toList.all Text.isBlank = true) (h : Spaced words chars) :
      Spaced (text.toList :: words) (blanks.toList ++ text.toList ++ chars) :=
    .cons (List.all_eq_true.mp hblanks) h
  have hwords :=
    word " " "5" (by decide) <| word "" "-" (by decide) <| word "" "-3.5" (by decide) <|
      word " " "*" (by decide) <| word " " "(" (by decide) <| word " " "-.5" (by decide) <|
      word "" ")" (by decide) <| word "" "^" (by decide) <| word "" "2" (by decide) <|
      @Spaced.nil [] (by simp)
  have hspaced : Spaced _ text.toList := Eq.subst (by decide) hwords
  obtain ⟨htokens, hpostfix, x, -, hunique, hvalue⟩ :=
    evaluates_of_rendering hdifference hspaced (rfl : Settings.lengthLimit {} = .ok _) (by decide)
  have hjoined : String.intercalate " " ["5", "-3.5", "-.5", "2", "^", "*", "-"] =
      "5 -3.5 -.5 2 ^ * -" := by decide
  -- the value by hand, from what the four literals spell
  have hdigits (c : Char) (h : c = '2' ∨ c = '3' ∨ c = '5') : Numeral.isDigit c = true := by
    rcases h with rfl | rfl | rfl <;> decide
  have hspellsFive : Numeral.Spells ['5'] false 5 0 := .whole (by simp) (by simp [hdigits])
  have hspellsTwo : Numeral.Spells ['2'] false 2 0 := .whole (by simp) (by simp [hdigits])
  have hspellsFactor : Numeral.Spells ['-', '3', '.', '5'] true 35 1 :=
    .negative (@Numeral.Spells.decimal ['3'] ['5'] (by simp [hdigits]) (by simp [hdigits]))
  have hspellsBase : Numeral.Spells ['-', '.', '5'] true 5 1 :=
    .negative (@Numeral.Spells.decimal [] ['5'] (by simp) (by simp [hdigits]))
  have happly {o : Operator} {a b x : Float} (h : o.apply a b = x) :
      applyOperator o.symbol a b = .ok x := by
    rw [Formula.applyOperator_symbol, h]
  have hx : (5.875 : Float) = x :=
    hunique _ (.operation (.positive hspellsFive)
      (.operation (.negative hspellsFactor)
        (.operation (.negative hspellsBase) (.positive hspellsTwo) (happly rfl)) (happly rfl))
      (happly (by rfl)))
  refine ⟨?_, hpostfix.trans (congrArg Except.ok hjoined), hx ▸ hvalue⟩
  rw [htokens]
  rfl

end Calculator
