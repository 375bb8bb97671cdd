import Calculator.Proofs.Expression.Splitting

/-!
# Fragments read again

The fragments of a text, written down with blanks between them, are the fragments of what was
written. A literal with its sign is cut apart there once more, and a sign that stands alone may come
to stand before a literal; but cut apart, the fragments are the raw fragments of the first text
again, and those alone decide about signs. So nothing is joined or left apart differently the second
time, in expressions and in texts that are none.

## Main definitions

* `Separated`: words in order, with blanks between each two of them.

## Main results

* `Fragment.raw_separated`: separated words are cut one by one.
* `Fragment.raw_of_mem_signed`: a fragment is cut into its pieces.
* `Fragment.flatMap_pieces_signed`: the pieces of all fragments are the raw fragments.
* `fragments_separated`: **fragments survive writing and reading again**.
-/

namespace Calculator

/-- The words stand in the text in order, with at least one blank between each two of them. -/
inductive Separated : List (List Char) → List Char → Prop
  | nil : Separated [] []
  | single (word : List Char) : Separated [word] word
  | cons {word next blanks chars : List Char} {words : List (List Char)} (hne : blanks ≠ [])
      (hblanks : ∀ c ∈ blanks, Text.isBlank c = true) (hrest : Separated (next :: words) chars) :
      Separated (word :: next :: words) (word ++ blanks ++ chars)

/-- Words joined by single spaces are separated. -/
theorem separated_intercalate (words : List (List Char)) :
    Separated words ([' '].intercalate words) := by
  induction words with
  | nil => exact .nil
  | cons word words ih =>
      rcases words with - | ⟨next, words⟩
      · rw [List.intercalate_singleton]
        exact .single word
      · rw [List.intercalate_cons_cons]
        exact .cons (by simp) (by simp [Text.isBlank]) ih

namespace Fragment

variable {chars fragment word blanks rest : List Char} {words fragments done : List (List Char)}

/-! ### Cutting separated words -/

/-- Blanks are no fragments. -/
private theorem raw_blanks_append (h : ∀ c ∈ blanks, Text.isBlank c = true) :
    raw (blanks ++ rest) = raw rest := by
  induction blanks with
  | nil => rfl
  | cons c blanks ih =>
      obtain ⟨hc, hblanks⟩ := List.forall_mem_cons.mp h
      have hplain : ¬ IsPlain c := fun hplain => by simp [hplain.1] at hc
      have hcut := @raw_append_cons [] (blanks ++ rest) c hplain
      rw [List.nil_append] at hcut
      rw [List.cons_append, hcut, raw_blank hc, ih hblanks]
      rfl

/-- Blanks cut words apart. -/
private theorem raw_append_blanks (hne : blanks ≠ [])
    (hblanks : ∀ c ∈ blanks, Text.isBlank c = true) :
    raw (word ++ blanks ++ rest) = raw word ++ raw rest := by
  obtain ⟨c, blanks, rfl⟩ := List.exists_cons_of_ne_nil hne
  obtain ⟨hc, hblanks⟩ := List.forall_mem_cons.mp hblanks
  have hplain : ¬ IsPlain c := fun hplain => by simp [hplain.1] at hc
  rw [List.append_assoc, List.cons_append, raw_append_cons hplain, raw_blank hc,
    raw_blanks_append hblanks, List.append_nil]

/-- **Separated words are cut one by one.** -/
theorem raw_separated (h : Separated words chars) : raw chars = words.flatMap raw := by
  induction h with
  | nil => rfl
  | single word => simp
  | cons hne hblanks _ ih => rw [raw_append_blanks hne hblanks, ih, ← List.flatMap_cons]

/-! ### Cutting fragments -/

/-- A raw fragment is not cut any further. -/
theorem raw_of_mem_raw (h : word ∈ raw chars) : raw word = [word] := by
  rcases raw_cases h with ⟨c, hsymbol, rfl⟩ | ⟨hne, hplain⟩
  · exact raw_symbol hsymbol
  · exact raw_word hne hplain

/-- A raw fragment is one piece: a sign in it stands alone. -/
theorem pieces_of_mem_raw (h : word ∈ raw chars) : pieces word = [word] := by
  rcases raw_cases h with ⟨c, -, rfl⟩ | ⟨-, hplain⟩
  · exact pieces_singleton c
  · unfold pieces
    split
    · exact absurd (hplain '-' (by simp)).2 (by decide)
    · rfl

/-- A fragment is cut into its pieces. -/
theorem raw_of_mem_signed (h : fragment ∈ signed (raw chars)) : raw fragment = pieces fragment := by
  rcases mem_or_exists_of_mem_signed h with hraw | ⟨literal, hraw, rfl⟩
  · rw [raw_of_mem_raw hraw, pieces_of_mem_raw hraw]
  · have hcut := @raw_append_cons [] literal '-' fun hplain => absurd hplain.2 (by decide)
    obtain ⟨c, rest, rfl⟩ := List.exists_cons_of_ne_nil (isWord_of_mem_raw hraw).1
    rw [List.nil_append] at hcut
    rw [hcut, raw_of_mem_raw hraw, raw_symbol (by decide)]
    rfl

/-- Joining is undone by taking the joined fragments apart. -/
private theorem flatMap_pieces_joinInto (h : ∀ fragment ∈ fragments, pieces fragment = [fragment]) :
    (joinInto done fragments).flatMap pieces = done.reverse.flatMap pieces ++ fragments := by
  fun_induction joinInto done fragments with
  | case1 done => simp
  | case2 done fragment => simp [h fragment (by simp)]
  | case3 done fragment next rest hjoins ih =>
      obtain ⟨⟨rfl, -⟩, hliteral⟩ :
          (fragment = ['-'] ∧ _) ∧ Numeral.isLiteral next = true := by
        simpa using hjoins
      have hjoined : pieces ('-' :: next) = [['-'], next] := by
        cases next with
        | nil => simp [Numeral.isLiteral] at hliteral
        | cons c rest => rfl
      rw [ih fun fragment hfragment => h fragment (by simp [hfragment])]
      simp [hjoined]
  | case4 done fragment next rest hjoins ih =>
      obtain ⟨hfragment, hrest⟩ := List.forall_mem_cons.mp h
      rw [ih hrest]
      simp [hfragment]

/-- **The pieces of all fragments are the raw fragments.** -/
theorem flatMap_pieces_signed (chars : List Char) :
    (signed (raw chars)).flatMap pieces = raw chars := by
  rw [← joinSigns_eq_signed, joinSigns,
    flatMap_pieces_joinInto fun _ hfragment => pieces_of_mem_raw hfragment]
  rfl

/-- Separated fragments are cut into the raw fragments that they were made of. -/
theorem raw_of_separated_signed {joined : List Char} (h : Separated (signed (raw chars)) joined) :
    raw joined = raw chars := by
  calc raw joined
      = (signed (raw chars)).flatMap raw := raw_separated h
    _ = (signed (raw chars)).flatMap pieces :=
        List.flatMap_congr fun _ hfragment => raw_of_mem_signed hfragment
    _ = raw chars := flatMap_pieces_signed chars

end Fragment

/-! ### Whole texts -/

section

variable {settings : Settings} {limit : Limit} {text : String}

/-- **Fragments survive writing and reading again.** Within the limit a text has fragments, whether
it is an expression or not. A text within the limit in which they stand in order with blanks between
them, single spaces for one, is cut into the same raw fragments: it has the same fragments, and the
same tokens or the same fragment that is none. -/
theorem fragments_separated (hlimit : settings.lengthLimit = .ok limit)
    (hwithin : limit.isExceededBy text.length = false) :
    ∃ words, fragments settings text = .ok words ∧
      Separated (words.map String.toList) (String.intercalate " " words).toList ∧
      ∀ joined : String, limit.isExceededBy joined.length = false →
        Separated (words.map String.toList) joined.toList →
        Fragment.raw joined.toList = Fragment.raw text.toList ∧
          fragments settings joined = .ok words ∧
          tokenize settings joined = tokenize settings text := by
  have hwords : (Fragment.ofText text).map String.toList =
      Fragment.signed (Fragment.raw text.toList) := by
    simp [Fragment.ofText, Function.comp_def]
  refine ⟨Fragment.ofText text, ?_, ?_, fun joined hjoined hseparated => ?_⟩
  · rw [fragments_of_within hlimit hwithin, Fragment.split_eq_ofText]
  · rw [String.toList_intercalate]
    exact separated_intercalate _
  · rw [hwords] at hseparated
    have hraw := Fragment.raw_of_separated_signed hseparated
    have hsame : Fragment.ofText joined = Fragment.ofText text := by
      rw [Fragment.ofText, hraw, Fragment.ofText]
    refine ⟨hraw, ?_, ?_⟩
    · rw [fragments_of_within hlimit hjoined, Fragment.split_eq_ofText, hsame]
    · rw [tokenize_of_within hlimit hjoined, tokenize_of_within hlimit hwithin,
        Fragment.split_eq_ofText, Fragment.split_eq_ofText, hsame]

/-- The text `--5 -x` and its fragments with two spaces, a space and a tab between them have the
same fragments: the first sign is left alone again, and the second one joined again. -/
theorem fragments_separated_signs :
    Settings.lengthLimit {} = .ok (.whole 10000) ∧
      fragments {} "--5 -x" = .ok ["-", "-5", "-", "x"] ∧
      fragments {} "-  -5 -\tx" = .ok ["-", "-5", "-", "x"] ∧
      tokenize {} "-  -5 -\tx" = tokenize {} "--5 -x" := by
  have hlimit : Settings.lengthLimit {} = .ok (.whole 10000) := rfl
  obtain ⟨words, hwords, -, hreread⟩ := @fragments_separated {} _ "--5 -x" hlimit (by decide)
  obtain rfl : ["-", "-5", "-", "x"] = words := Except.ok.inj hwords
  have htab : Separated [['-'], ['x']] ['-', '\t', 'x'] :=
    @Separated.cons _ _ ['\t'] _ _ (by decide) (by simp [Text.isBlank]) (.single ['x'])
  have hspace : Separated [['-', '5'], ['-'], ['x']] ['-', '5', ' ', '-', '\t', 'x'] :=
    @Separated.cons _ _ [' '] _ _ (by decide) (by simp [Text.isBlank]) htab
  have hseparated : Separated (["-", "-5", "-", "x"].map String.toList) "-  -5 -\tx".toList :=
    @Separated.cons _ _ [' ', ' '] _ _ (by decide) (by simp [Text.isBlank]) hspace
  obtain ⟨-, hsame, htokens⟩ := hreread "-  -5 -\tx" (by decide) hseparated
  exact ⟨hlimit, hwords, hsame, htokens⟩

end

end Calculator
