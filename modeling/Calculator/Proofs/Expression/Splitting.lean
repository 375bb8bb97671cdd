import Calculator.Proofs.Expression.LengthLimit
import Calculator.Proofs.Text.Words
import Mathlib.Data.List.SplitBy

/-!
# What the fragments of a text are

The fragments of any text, whether it is an expression or not. The raw fragments are the runs of
characters that stand together, without the blanks, and a minus sign is joined with the literal
after it where its raw neighbors say so. The program decides this from the fragment that it joined
last; the decision is the same, because a literal with its sign announces an operand no more than
the literal alone does.

## Main definitions

* `Fragment.symbols`, `Fragment.runs`, `Fragment.raw`: the raw fragments.
* `Fragment.Announces`, `Fragment.JoinsAt`: which minus signs are joined.
* `Fragment.signed`, `Fragment.ofText`: the fragments.
* `Fragment.IsToken`: literals, operators and parentheses.

## Main results

* `Fragment.cut_eq_raw`: a text is cut into its raw fragments.
* `Fragment.joinSigns_eq_signed`: signs are joined by their raw neighbors.
* `readTexts_eq_error`: the first fragment that is no token is refused.
* `fragments_exact`: **the fragments of a text, and whether they are tokens**.
-/

namespace Calculator

namespace Fragment

/-! ### Raw fragments -/

/-- The characters that stand alone. -/
def symbols : List Char := ['+', '-', '*', '/', '^', '(', ')']

/-- Whether a character may stand together with others. -/
def standsTogether (c : Char) : Bool := !Text.isBlank c && !symbols.contains c

/-- The runs of characters that stand together. -/
def runs (chars : List Char) : List (List Char) :=
  chars.splitBy fun c d => standsTogether c && standsTogether d

/-- The raw fragments: the runs without the blanks. -/
def raw (chars : List Char) : List (List Char) :=
  (runs chars).filter fun run => !run.all Text.isBlank

section

variable {chars word first second rest : List Char} {c : Char}

/-- Plain characters may stand together. -/
theorem standsTogether_iff : standsTogether c = true ↔ IsPlain c := by
  simp only [standsTogether, symbols, IsPlain, isSymbol, Bool.and_eq_true, Bool.not_eq_true',
    Bool.or_eq_false_iff, List.contains_eq_mem, decide_eq_false_iff_not, List.mem_cons,
    List.not_mem_nil, or_false, not_or]
  tauto

/-- A character that is not plain ends a run. -/
theorem ends_of_not_isPlain (h : ¬ IsPlain c) : Ends c := by
  simp only [IsPlain, not_and_or, Bool.not_eq_false] at h
  exact h

/-- Texts are cut apart where a run ends. -/
theorem raw_append
    (h : ∀ c ∈ first.getLast?, ∀ d ∈ second.head?, ¬ (IsPlain c ∧ IsPlain d)) :
    raw (first ++ second) = raw first ++ raw second := by
  have hruns : runs (first ++ second) = runs first ++ runs second := by
    refine List.splitBy_append fun c hc d hd => ?_
    rw [← Bool.not_eq_true, Bool.and_eq_true, standsTogether_iff, standsTogether_iff]
    exact h c hc d hd
  rw [raw, hruns, List.filter_append, raw, raw]

/-- A character that is not plain is cut off on both sides. -/
theorem raw_append_cons (hc : ¬ IsPlain c) :
    raw (first ++ c :: rest) = raw first ++ raw [c] ++ raw rest := by
  have hleft : raw (first ++ c :: rest) = raw first ++ raw (c :: rest) := by
    refine raw_append fun d _ e he => ?_
    obtain rfl : c = e := by simpa using he
    exact fun h => hc h.2
  have hright : raw ([c] ++ rest) = raw [c] ++ raw rest := by
    refine raw_append fun d hd e _ => ?_
    obtain rfl : c = d := by simpa using hd
    exact fun h => hc h.1
  rw [hleft, ← List.singleton_append, hright, List.append_assoc]

/-- A blank is no fragment. -/
theorem raw_blank (h : Text.isBlank c = true) : raw [c] = [] := by
  simp [raw, runs, List.splitBy, List.splitBy.loop, h]

/-- A symbol is a fragment. -/
theorem raw_symbol (h : isSymbol c = true) : raw [c] = [[c]] := by
  simp [raw, runs, List.splitBy, List.splitBy.loop, isBlank_of_isSymbol h]

/-- A word of plain characters is a fragment. -/
theorem raw_word (hne : word ≠ []) (hplain : ∀ c ∈ word, IsPlain c) : raw word = [word] := by
  have hruns : runs word = [word] := by
    refine List.splitBy_of_isChain hne (List.Pairwise.isChain ?_)
    refine List.pairwise_of_forall_mem_list fun c hc d hd => ?_
    simp [standsTogether_iff.mpr (hplain c hc), standsTogether_iff.mpr (hplain d hd)]
  obtain ⟨c, rest, rfl⟩ := List.exists_cons_of_ne_nil hne
  simp [raw, hruns, (hplain c (by simp)).1]

/-- An open word is closed as a fragment. -/
private theorem reverse_closeWord (done : List (List Char)) (hplain : ∀ c ∈ word, IsPlain c) :
    (Text.closeWord word done).reverse = done.reverse ++ raw word.reverse := by
  cases word with
  | nil => simp [Text.closeWord, raw, runs]
  | cons c word =>
      have hreverse : ∀ d ∈ (c :: word).reverse, IsPlain d :=
        fun d hd => hplain d (List.mem_reverse.mp hd)
      rw [raw_word (by simp) hreverse]
      simp [Text.closeWord]

/-- What is collected is what was finished, and the raw fragments of the open word and the rest. -/
private theorem collect_eq (done : List (List Char)) (hplain : ∀ c ∈ word, IsPlain c) :
    collect done word chars = done.reverse ++ raw (word.reverse ++ chars) := by
  induction chars generalizing done word with
  | nil => rw [collect, reverse_closeWord done hplain, List.append_nil]
  | cons c rest ih =>
      by_cases hc : IsPlain c
      · simp only [collect, hc.1, hc.2, Bool.false_eq_true, if_false]
        rw [ih done (List.forall_mem_cons.mpr ⟨hc, hplain⟩)]
        simp
      · rw [raw_append_cons hc]
        rcases ends_of_not_isPlain hc with hblank | hsymbol
        · simp only [collect, hblank, if_true]
          rw [ih _ (by simp), reverse_closeWord done hplain, raw_blank hblank]
          simp
        · simp only [collect, isBlank_of_isSymbol hsymbol, hsymbol, Bool.false_eq_true, if_false,
            if_true]
          rw [ih _ (by simp), List.reverse_cons, reverse_closeWord done hplain, raw_symbol hsymbol]
          simp

/-- A text is cut into its raw fragments. -/
theorem cut_eq_raw (chars : List Char) : cut chars = raw chars := by
  rw [cut, collect_eq [] (by simp)]
  simp

/-- Characters of a chain of plain neighbors are plain. -/
private theorem isPlain_of_isChain {d : Char}
    (h : (c :: d :: rest).IsChain fun c d => IsPlain c ∧ IsPlain d) :
    ∀ e ∈ c :: d :: rest, IsPlain e := by
  induction rest generalizing c d with
  | nil => simpa using h
  | cons e rest ih =>
      obtain ⟨⟨hc, -⟩, hchain⟩ := List.isChain_cons_cons.mp h
      exact List.forall_mem_cons.mpr ⟨hc, ih hchain⟩

/-- A run is a single character or a word of plain characters. -/
private theorem run_cases (h : word ∈ runs chars) :
    (∃ c, word = [c]) ∨ word ≠ [] ∧ ∀ c ∈ word, IsPlain c := by
  have hchain := List.isChain_of_mem_splitBy h
  rcases word with - | ⟨c, - | ⟨d, rest⟩⟩
  · exact absurd h (List.nil_notMem_splitBy _ _)
  · exact Or.inl ⟨c, rfl⟩
  · refine Or.inr ⟨by simp, isPlain_of_isChain (hchain.imp fun c d hcd => ?_)⟩
    simpa [standsTogether_iff] using hcd

/-- A raw fragment is a symbol or a word of plain characters. -/
theorem raw_cases (h : word ∈ raw chars) :
    (∃ c, isSymbol c = true ∧ word = [c]) ∨ word ≠ [] ∧ ∀ c ∈ word, IsPlain c := by
  obtain ⟨hrun, hkept⟩ := List.mem_filter.mp h
  rcases run_cases hrun with ⟨c, rfl⟩ | hword
  · have hblank : Text.isBlank c = false := by simpa using hkept
    cases hsymbol : isSymbol c with
    | true => exact Or.inl ⟨c, hsymbol, rfl⟩
    | false => exact Or.inr ⟨by simp, by simpa using ⟨hblank, hsymbol⟩⟩
  · exact Or.inr hword

/-- A raw fragment holds no blanks. -/
theorem isWord_of_mem_raw (h : word ∈ raw chars) : Text.IsWord word := by
  rcases raw_cases h with ⟨c, hsymbol, rfl⟩ | ⟨hne, hplain⟩
  · exact ⟨by simp, by simpa using isBlank_of_isSymbol hsymbol⟩
  · exact ⟨hne, fun c hc => (hplain c hc).1⟩

/-- A run that is dropped is blank. -/
private theorem filter_run (h : word ∈ runs chars) :
    word.filter (!Text.isBlank ·) = if word.all Text.isBlank then [] else word := by
  rcases run_cases h with ⟨c, rfl⟩ | ⟨hne, hplain⟩
  · cases hblank : Text.isBlank c <;> simp [hblank]
  · obtain ⟨c, rest, rfl⟩ := List.exists_cons_of_ne_nil hne
    have hnone : (c :: rest).all Text.isBlank = false := by simp [(hplain c (by simp)).1]
    rw [hnone, if_neg Bool.false_ne_true, List.filter_eq_self]
    intro d hd
    simp [(hplain d hd).1]

/-- Nothing but the blanks is left out. -/
theorem flatten_raw (chars : List Char) : (raw chars).flatten = chars.filter (!Text.isBlank ·) := by
  have hflatten : ∀ l ⊆ runs chars,
      (l.filter fun run => !run.all Text.isBlank).flatten = l.flatten.filter (!Text.isBlank ·) := by
    intro l hl
    induction l with
    | nil => rfl
    | cons run l ih =>
        obtain ⟨hrun, hl⟩ := List.cons_subset.mp hl
        rw [List.flatten_cons, List.filter_append, filter_run hrun, ← ih hl]
        cases hall : run.all Text.isBlank <;> simp [hall]
  rw [raw, hflatten _ (List.Subset.refl _), runs, List.flatten_splitBy]

end

/-! ### Signs -/

/-- A fragment behind which an operand is due: an operator or an opening parenthesis. -/
def Announces (fragment : List Char) : Prop :=
  (∃ o : Operator, fragment = o.symbol.toList) ∨ fragment = ['(']

/-- The raw fragment at an index is a minus sign that belongs to the literal after it: an operand is
due where it stands. -/
def JoinsAt (fragments : List (List Char)) (i : Nat) : Prop :=
  fragments[i]? = some ['-'] ∧ (∃ literal ∈ fragments[i + 1]?, Numeral.Literal literal) ∧
    (i = 0 ∨ ∃ previous ∈ fragments[i - 1]?, Announces previous)

/-- An operand is due behind a fragment that announces it. -/
theorem opensOperand_iff {fragment : List Char} :
    opensOperand (some fragment) = true ↔ Announces fragment := by
  constructor
  · intro h
    rcases fragment with - | ⟨c, - | ⟨d, rest⟩⟩
    · simp [opensOperand] at h
    · simp only [opensOperand, isSymbol, Bool.and_eq_true, Bool.or_eq_true, decide_eq_true_eq] at h
      rcases h with ⟨(((((rfl | rfl) | rfl) | rfl) | rfl) | rfl) | rfl, hclosing⟩
      · exact Or.inl ⟨.plus, rfl⟩
      · exact Or.inl ⟨.minus, rfl⟩
      · exact Or.inl ⟨.times, rfl⟩
      · exact Or.inl ⟨.divide, rfl⟩
      · exact Or.inl ⟨.power, rfl⟩
      · exact Or.inr rfl
      · exact absurd rfl hclosing
    · simp [opensOperand] at h
  · rintro (⟨o, rfl⟩ | rfl)
    · cases o <;> rfl
    · rfl

instance : DecidablePred Announces := fun _ => decidable_of_iff _ opensOperand_iff

instance (fragments : List (List Char)) (i : Nat) : Decidable (JoinsAt fragments i) :=
  inferInstanceAs (Decidable (_ ∧ _ ∧ (_ ∨ _)))

/-- What is made of the raw fragment at an index: a sign with its literal, nothing more of the
literal, or what it is. -/
def signedAt (fragments : List (List Char)) (i : Nat) : Option (List Char) :=
  if JoinsAt fragments i then (fragments[i + 1]?).map ('-' :: ·)
  else if 0 < i ∧ JoinsAt fragments (i - 1) then none
  else fragments[i]?

/-- The raw fragments with the signs joined. -/
def signed (fragments : List (List Char)) : List (List Char) :=
  (List.range fragments.length).filterMap (signedAt fragments)

section

variable {before rest done : List (List Char)} {fragment next : List Char}

/-- Whether the fragment behind others is joined is told by the last of them and the next one. -/
private theorem joinsAt_length :
    JoinsAt (before ++ fragment :: rest) before.length ↔
      fragment = ['-'] ∧ (∃ literal ∈ rest.head?, Numeral.Literal literal) ∧
        opensOperand before.getLast? = true := by
  have hnext : (before ++ fragment :: rest)[before.length + 1]? = rest.head? := by
    rw [List.getElem?_append_right (by omega)]
    simp [List.head?_eq_getElem?]
  have hprevious : (before.length = 0 ∨
      ∃ previous ∈ (before ++ fragment :: rest)[before.length - 1]?, Announces previous) ↔
        opensOperand before.getLast? = true := by
    rcases before.eq_nil_or_concat with rfl | ⟨init, last, rfl⟩
    · simp [opensOperand]
    · simp [opensOperand_iff]
  rw [JoinsAt, hnext, hprevious]
  simp

/-- A fragment that is not joined with one of its neighbors stays as it is. -/
private theorem signedAt_of_not_joinsAt
    (hjoins : ¬ JoinsAt (before ++ fragment :: rest) before.length)
    (hclear : before ≠ [] → ¬ JoinsAt (before ++ fragment :: rest) (before.length - 1)) :
    signedAt (before ++ fragment :: rest) before.length = some fragment := by
  have hnot : ¬ (0 < before.length ∧
      JoinsAt (before ++ fragment :: rest) (before.length - 1)) := fun h =>
    hclear (List.ne_nil_of_length_pos h.1) h.2
  rw [signedAt, if_neg hjoins, if_neg hnot]
  simp

/-- A sign is joined with its literal, of which nothing more is made. -/
private theorem signedAt_of_joinsAt
    (hjoins : JoinsAt (before ++ fragment :: next :: rest) before.length) :
    signedAt (before ++ fragment :: next :: rest) before.length = some ('-' :: next) ∧
      ¬ JoinsAt (before ++ fragment :: next :: rest) (before.length + 1) ∧
      signedAt (before ++ fragment :: next :: rest) (before.length + 1) = none := by
  have hnext : (before ++ fragment :: next :: rest)[before.length + 1]? = some next := by
    rw [List.getElem?_append_right (by omega)]
    simp
  obtain ⟨-, ⟨literal, hliteral, hgrammar⟩, -⟩ := joinsAt_length.mp hjoins
  obtain rfl : next = literal := Option.some.inj hliteral
  have hnot : ¬ JoinsAt (before ++ fragment :: next :: rest) (before.length + 1) := by
    rintro ⟨hsign, -⟩
    obtain rfl : next = ['-'] := Option.some.inj (hnext.symm.trans hsign)
    exact absurd hgrammar (by decide)
  refine ⟨?_, hnot, ?_⟩
  · rw [signedAt, if_pos hjoins, hnext, Option.map_some]
  · rw [signedAt, if_neg hnot, if_pos ⟨Nat.succ_pos _, hjoins⟩]

/-- The loop joins a sign where the raw fragments say so. -/
private theorem joins_iff (hdone : opensOperand done.head? = opensOperand before.getLast?) :
    (fragment = ['-'] && opensOperand done.head? && Numeral.isLiteral next) = true ↔
      JoinsAt (before ++ fragment :: next :: rest) before.length := by
  rw [joinsAt_length, hdone, Bool.and_eq_true, Bool.and_eq_true, decide_eq_true_eq,
    Numeral.isLiteral_iff]
  simp only [List.head?_cons, Option.mem_some_iff, exists_eq_left']
  tauto

/-- What is joined behind fragments that are done, if they announce an operand exactly where the raw
ones do and the last raw one is no sign of the next. -/
private theorem joinInto_eq (hdone : opensOperand done.head? = opensOperand before.getLast?)
    (hclear : before ≠ [] → ¬ JoinsAt (before ++ rest) (before.length - 1)) :
    joinInto done rest = done.reverse ++
      (List.range' before.length rest.length).filterMap (signedAt (before ++ rest)) := by
  fun_induction joinInto done rest generalizing before with
  | case1 done => simp
  | case2 done fragment =>
      have hkept : ¬ JoinsAt (before ++ [fragment]) before.length := by
        rw [joinsAt_length]
        simp
      simp [signedAt_of_not_joinsAt hkept hclear]
  | case3 done fragment next rest hjoins ih =>
      obtain ⟨hsigned, hnot, hnone⟩ := signedAt_of_joinsAt ((joins_iff hdone).mp hjoins)
      obtain ⟨-, hliteral⟩ := Bool.and_eq_true_iff.mp hjoins
      -- neither the literal nor the sign with the literal announces an operand
      have hnext : opensOperand (some next) = false :=
        opensOperand_literal ((Numeral.isLiteral_iff next).mp hliteral)
      have hjoin : opensOperand (some ('-' :: next)) = false := by
        cases next with
        | nil => simp [Numeral.isLiteral] at hliteral
        | cons c chars => rfl
      have hrest : before ++ fragment :: next :: rest = before ++ [fragment, next] ++ rest := by
        simp
      rw [List.length_cons, List.length_cons, List.range'_succ, List.range'_succ,
        List.filterMap_cons, hsigned, List.filterMap_cons, hnone]
      rw [hrest] at hnot ⊢
      have hgo := @ih (before ++ [fragment, next]) (by simp [hnext, hjoin]) (by simpa using hnot)
      simpa using hgo
  | case4 done fragment next rest hjoins ih =>
      have hkept : ¬ JoinsAt (before ++ fragment :: next :: rest) before.length :=
        mt (joins_iff hdone).mpr hjoins
      have hsigned := signedAt_of_not_joinsAt hkept hclear
      have hrest : before ++ fragment :: next :: rest = before ++ [fragment] ++ next :: rest := by
        simp
      rw [List.length_cons, List.range'_succ, List.filterMap_cons, hsigned]
      rw [hrest] at hkept ⊢
      have hgo := @ih (before ++ [fragment]) (by simp) (by simpa using hkept)
      simpa using hgo

/-- Signs are joined by their raw neighbors. -/
theorem joinSigns_eq_signed (fragments : List (List Char)) :
    joinSigns fragments = signed fragments := by
  rw [joinSigns, @joinInto_eq [] fragments [] rfl (absurd rfl), signed, List.range_eq_range']
  rfl

/-- Joining signs changes nothing in what all fragments are together. -/
private theorem flatten_joinInto (done rest : List (List Char)) :
    (joinInto done rest).flatten = done.reverse.flatten ++ rest.flatten := by
  fun_induction joinInto done rest with
  | case1 done => simp
  | case2 done fragment => simp
  | case3 done fragment next rest hjoins ih =>
      obtain ⟨⟨rfl, -⟩, -⟩ : (fragment = ['-'] ∧ _) ∧ _ := by simpa using hjoins
      rw [ih]
      simp
  | case4 done fragment next rest hjoins ih =>
      rw [ih]
      simp

/-- A fragment is a raw one, or one with a sign before it. -/
theorem mem_or_exists_of_mem_signed {fragments : List (List Char)}
    (h : fragment ∈ signed fragments) :
    fragment ∈ fragments ∨ ∃ literal ∈ fragments, fragment = '-' :: literal := by
  obtain ⟨i, -, hi⟩ := List.mem_filterMap.mp h
  rw [signedAt] at hi
  split at hi
  case isTrue =>
    obtain ⟨literal, hliteral, rfl⟩ := Option.map_eq_some_iff.mp hi
    exact Or.inr ⟨literal, List.mem_of_getElem? hliteral, rfl⟩
  split at hi
  case isTrue => simp at hi
  case isFalse => exact Or.inl (List.mem_of_getElem? hi)

/-- Fragments hold no blanks. -/
theorem isWord_of_mem_signed {chars : List Char} (h : fragment ∈ signed (raw chars)) :
    Text.IsWord fragment := by
  rcases mem_or_exists_of_mem_signed h with hraw | ⟨literal, hraw, rfl⟩
  · exact isWord_of_mem_raw hraw
  · obtain ⟨-, hblank⟩ := isWord_of_mem_raw hraw
    exact ⟨by simp, List.forall_mem_cons.mpr ⟨by decide, hblank⟩⟩

/-- Joining signs changes nothing in what all fragments are together. -/
theorem flatten_signed (fragments : List (List Char)) :
    (signed fragments).flatten = fragments.flatten := by
  rw [← joinSigns_eq_signed, joinSigns, flatten_joinInto]
  simp

end

/-! ### Whole texts -/

/-- The fragments of a text: its raw fragments with the signs joined. -/
def ofText (text : String) : List String := (signed (raw text.toList)).map String.ofList

/-- A text is split into its fragments. -/
theorem split_eq_ofText (text : String) : split text = ofText text := by
  rw [split, cut_eq_raw, joinSigns_eq_signed, ofText]

/-- Fragments hold no blanks. -/
theorem isWord_of_mem_ofText {text fragment : String} (h : fragment ∈ ofText text) :
    Text.IsWord fragment.toList := by
  obtain ⟨chars, hchars, rfl⟩ := List.mem_map.mp h
  rw [String.toList_ofList]
  exact isWord_of_mem_signed hchars

/-- The fragments together are the text without its blanks. -/
theorem join_ofText (text : String) :
    String.join (ofText text) = String.ofList (text.toList.filter (!Text.isBlank ·)) := by
  refine String.toList_injective ?_
  rw [String.toList_join, String.toList_ofList, ← flatten_raw, ← flatten_signed, ofText]
  simp [List.flatMap_map]

/-- A fragment that is a token: a literal, an operator or a parenthesis. -/
def IsToken (fragment : String) : Prop :=
  Numeral.Literal fragment.toList ∨ (∃ o : Operator, fragment = o.symbol) ∨ fragment = "(" ∨
    fragment = ")"

/-- A fragment is a token if it is read as one. -/
theorem isToken_iff {fragment : String} :
    IsToken fragment ↔ (Token.ofText? fragment).isSome = true := by
  rw [Option.isSome_iff_exists]
  constructor
  · rintro (hliteral | ⟨o, rfl⟩ | rfl | rfl)
    · exact ⟨_, (Token.Spelled.number hliteral).ofText?_text⟩
    · exact ⟨_, (Token.Spelled.operator o).ofText?_text⟩
    · exact ⟨_, Token.Spelled.leftParen.ofText?_text⟩
    · exact ⟨_, Token.Spelled.rightParen.ofText?_text⟩
  · rintro ⟨token, htoken⟩
    obtain ⟨rfl, hspelled⟩ := Token.ofText?_eq_some_iff.mp htoken
    cases hspelled with
    | number hliteral => exact Or.inl hliteral
    | operator o => exact Or.inr (Or.inl ⟨o, rfl⟩)
    | leftParen => exact Or.inr (Or.inr (Or.inl rfl))
    | rightParen => exact Or.inr (Or.inr (Or.inr rfl))

instance : DecidablePred IsToken := fun _ => decidable_of_iff' _ isToken_iff

end Fragment

/-! ### Reading fragments -/

section

variable {settings : Settings} {limit : Limit} {text : String}

/-- The first text that is no token is refused with its index. -/
private theorem readInto_eq_error {good rest : List String} {bad : String} (read : List Token)
    (hgood : ∀ text ∈ good, Fragment.IsToken text) (hbad : ¬ Fragment.IsToken bad) :
    readInto read ((good ++ bad :: rest).map .text) =
      .error (.invalidToken bad (some (read.length + good.length))) := by
  induction good generalizing read with
  | nil =>
      have hnone : Token.ofText? bad = none := by simpa [Fragment.isToken_iff] using hbad
      simp [readInto, Item.token?, hnone, Item.written]
  | cons text good ih =>
      obtain ⟨htext, hgood⟩ := List.forall_mem_cons.mp hgood
      obtain ⟨token, htoken⟩ := Option.isSome_iff_exists.mp (Fragment.isToken_iff.mp htext)
      simp only [List.cons_append, List.map_cons, readInto, Item.token?, htoken]
      rw [ih (token :: read) hgood]
      simp only [List.length_cons]
      rw [Nat.add_right_comm, Nat.add_assoc]

/-- **The first fragment that is no token is refused.** -/
theorem readTexts_eq_error {good rest : List String} {bad : String}
    (hgood : ∀ text ∈ good, Fragment.IsToken text) (hbad : ¬ Fragment.IsToken bad) :
    readTexts (good ++ bad :: rest) = .error (.invalidToken bad (some good.length)) := by
  rw [readTexts, readItems, readInto_eq_error [] hgood hbad]
  simp

/-- Texts are read if all of them are tokens. -/
theorem exists_readTexts_eq_ok_iff {texts : List String} :
    (∃ tokens, readTexts texts = .ok tokens) ↔ ∀ text ∈ texts, Fragment.IsToken text := by
  simp only [readTexts_eq_ok_iff]
  constructor
  · rintro ⟨tokens, rfl, hspelled⟩ text htext
    obtain ⟨token, htoken, rfl⟩ := List.mem_map.mp htext
    exact Fragment.isToken_iff.mpr (Option.isSome_of_eq_some (hspelled token htoken).ofText?_text)
  · intro hall
    induction texts with
    | nil => exact ⟨[], rfl, by simp⟩
    | cons text texts ih =>
        obtain ⟨htext, htexts⟩ := List.forall_mem_cons.mp hall
        obtain ⟨token, htoken⟩ := Option.isSome_iff_exists.mp (Fragment.isToken_iff.mp htext)
        obtain ⟨rfl, hspelled⟩ := Token.ofText?_eq_some_iff.mp htoken
        obtain ⟨tokens, rfl, htokens⟩ := ih htexts
        exact ⟨token :: tokens, rfl, List.forall_mem_cons.mpr ⟨hspelled, htokens⟩⟩

/-- Texts that are not all tokens have a first one that is none. -/
private theorem exists_first_not_isToken {texts : List String}
    (h : ¬ ∀ text ∈ texts, Fragment.IsToken text) :
    ∃ good bad rest, texts = good ++ bad :: rest ∧ (∀ text ∈ good, Fragment.IsToken text) ∧
      ¬ Fragment.IsToken bad := by
  obtain ⟨good, staying, -, rfl, hgood, hbad⟩ :=
    Conversion.exists_span (fun text => decide (Fragment.IsToken text)) texts
  rcases staying with - | ⟨bad, rest⟩
  · simp_all
  · exact ⟨good, bad, rest, rfl, by simpa using hgood, by simpa using hbad⟩

/-- **The fragments of a text, and whether they are tokens.** Within the limit, a text is split into
its raw fragments with the signs joined, where the raw neighbors of a sign decide. The fragments
hold no blanks, and together they are the text without its blanks. The text is tokenized exactly if
all of them are literals, operators or parentheses, and otherwise the first one that is not is
refused, with its index. -/
theorem fragments_exact (hlimit : settings.lengthLimit = .ok limit)
    (hwithin : limit.isExceededBy text.length = false) :
    fragments settings text = .ok (Fragment.ofText text) ∧
      (∀ fragment ∈ Fragment.ofText text, Text.IsWord fragment.toList) ∧
      String.join (Fragment.ofText text) = String.ofList (text.toList.filter (!Text.isBlank ·)) ∧
      ((∃ tokens, tokenize settings text = .ok tokens) ↔
        ∀ fragment ∈ Fragment.ofText text, Fragment.IsToken fragment) ∧
      ((¬ ∀ fragment ∈ Fragment.ofText text, Fragment.IsToken fragment) →
        ∃ i bad problem, (Fragment.ofText text)[i]? = some bad ∧ ¬ Fragment.IsToken bad ∧
          (∀ j < i, ∀ fragment, (Fragment.ofText text)[j]? = some fragment →
            Fragment.IsToken fragment) ∧
          tokenize settings text = .error (.problem problem) ∧ problem.kind = .invalidToken ∧
          problem.code = "INVALID_TOKEN" ∧
          problem.details = [("token", .str bad), ("position", .nat i)]) := by
  have htokenize := tokenize_of_within hlimit hwithin
  rw [Fragment.split_eq_ofText] at htokenize
  refine ⟨?_, fun _ => Fragment.isWord_of_mem_ofText, Fragment.join_ofText text, ?_, ?_⟩
  · rw [fragments_of_within hlimit hwithin, Fragment.split_eq_ofText]
  · rw [← exists_readTexts_eq_ok_iff, htokenize]
    cases readTexts (Fragment.ofText text) <;> simp [Except.mapError]
  · intro hnot
    obtain ⟨good, bad, rest, hsplit, hgood, hbad⟩ := exists_first_not_isToken hnot
    rw [hsplit] at htokenize ⊢
    rw [readTexts_eq_error hgood hbad] at htokenize
    refine ⟨good.length, bad, _, by simp, hbad, fun j hj fragment hfragment => ?_, htokenize, rfl,
      rfl, rfl⟩
    rw [List.getElem?_append_left hj] at hfragment
    exact hgood fragment (List.mem_of_getElem? hfragment)

/-- In `2*-.5--3 $` two minus signs belong to literals, and the dollar is no token. -/
theorem fragments_exact_signs :
    Settings.lengthLimit {} = .ok (.whole 10000) ∧
      fragments {} "2*-.5--3 $" = .ok ["2", "*", "-.5", "-", "-3", "$"] ∧
      ∃ problem, tokenize {} "2*-.5--3 $" = .error (.problem problem) ∧
        problem.kind = .invalidToken := by
  have hlimit : Settings.lengthLimit {} = .ok (.whole 10000) := rfl
  have hfragments : Fragment.ofText "2*-.5--3 $" = ["2", "*", "-.5", "-", "-3", "$"] := by rfl
  obtain ⟨hsplit, -, -, -, hrefused⟩ := @fragments_exact {} _ "2*-.5--3 $" hlimit (by decide)
  rw [hfragments] at hsplit hrefused
  obtain ⟨-, -, problem, -, -, -, hproblem, hkind, -⟩ := hrefused (by decide)
  exact ⟨hlimit, hsplit, problem, hproblem, hkind⟩

end

end Calculator
