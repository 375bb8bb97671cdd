import Calculator.Text.Blank
import Mathlib.Data.List.Basic

/-!
# Words joined and found again

Words that hold no blanks are found again in the text that joins them by single spaces, both as the
maximal runs of other characters and as the pieces between the spaces.

## Main definitions

* `Text.IsWord`: at least one character, and no blanks.
* `Text.pieces`: what stands between the spaces of a text.

## Main results

* `Text.words_intercalate`, `Text.pieces_intercalate`: the words of a joined text, and its pieces.
-/

namespace Calculator.Text

/-- At least one character, and no blanks. -/
def IsWord (word : List Char) : Prop := word ≠ [] ∧ ∀ c ∈ word, isBlank c = false

/-- What stands between the spaces of a text; an empty text has no pieces. -/
def pieces (text : String) : List String :=
  if text = "" then [] else (text.toList.splitOn ' ').map String.ofList

/-- The characters of a word are collected. -/
private theorem collectWords_word {word : List Char} (done : List (List Char))
    (letters rest : List Char) (h : ∀ c ∈ word, isBlank c = false) :
    collectWords done letters (word ++ rest) =
      collectWords done (word.reverse ++ letters) rest := by
  induction word generalizing letters with
  | nil => rfl
  | cons c word ih =>
      obtain ⟨hc, hword⟩ := List.forall_mem_cons.mp h
      simp only [List.cons_append, collectWords, hc, Bool.false_eq_true, if_false]
      rw [ih (c :: letters) hword]
      simp

/-- What was collected of a word is closed as the word. -/
private theorem closeWord_reverse {word : List Char} (done : List (List Char)) (hne : word ≠ []) :
    closeWord word.reverse done = word :: done := by
  obtain ⟨c, letters, hreverse⟩ := List.exists_cons_of_ne_nil (List.reverse_ne_nil_iff.mpr hne)
  rw [hreverse, closeWord, ← hreverse, List.reverse_reverse]

/-- Words between spaces are collected one by one. -/
private theorem collectWords_intercalate {words : List (List Char)} (done : List (List Char))
    (h : ∀ word ∈ words, IsWord word) :
    collectWords done [] ([' '].intercalate words) = done.reverse ++ words := by
  induction words generalizing done with
  | nil => simp [collectWords, closeWord]
  | cons word words ih =>
      obtain ⟨⟨hne, hword⟩, hwords⟩ := List.forall_mem_cons.mp h
      rcases words with - | ⟨next, words⟩
      · have hcollect := collectWords_word done [] [] hword
        rw [List.append_nil, List.append_nil] at hcollect
        rw [List.intercalate_singleton, hcollect, collectWords, closeWord_reverse done hne]
        simp
      · have hblank : isBlank ' ' = true := by decide
        rw [List.intercalate_cons_cons, List.append_assoc, collectWords_word done [] _ hword,
          List.append_nil, List.singleton_append, collectWords, if_pos hblank,
          closeWord_reverse done hne, ih (word :: done) hwords]
        simp

/-- The words of a joined text. -/
theorem words_intercalate {texts : List String} (h : ∀ text ∈ texts, IsWord text.toList) :
    words (String.intercalate " " texts) = texts := by
  have hwords : ∀ word ∈ texts.map String.toList, IsWord word := by
    simpa using h
  rw [words, String.toList_intercalate]
  simp only [String.reduceToList]
  rw [collectWords_intercalate [] hwords]
  simp [Function.comp_def]

/-- The pieces of a joined text. -/
theorem pieces_intercalate {texts : List String} (h : ∀ text ∈ texts, IsWord text.toList) :
    pieces (String.intercalate " " texts) = texts := by
  rcases texts with - | ⟨first, texts⟩
  · simp [pieces]
  have hspace : ∀ word ∈ (first :: texts).map String.toList, ' ' ∉ word := by
    intro word hword
    obtain ⟨text, htext, rfl⟩ := List.mem_map.mp hword
    intro hmem
    have hblank := (h text htext).2 ' ' hmem
    exact absurd hblank (by decide)
  have hne : String.intercalate " " (first :: texts) ≠ "" := by
    intro hempty
    have hwords := words_intercalate h
    rw [hempty] at hwords
    simp [words, collectWords, closeWord] at hwords
  rw [pieces, if_neg hne, String.toList_intercalate]
  simp only [String.reduceToList]
  rw [List.splitOn_intercalate ' ' hspace (by simp)]
  simp [Function.comp_def]

end Calculator.Text
