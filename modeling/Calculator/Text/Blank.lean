/-!
# Blanks

Which characters separate words, and the words of a text. The class is Unicode's white space
together with the four information separators.

## Main definitions

* `isBlank`: the class.
* `words`: the maximal runs of characters outside the class.
* `isMargin`: the blanks that may surround a written integer.
* `trim`: characters without those of a class at the two ends.
-/

namespace Calculator.Text

/-- White space: the separators of words. -/
def isBlank (c : Char) : Bool :=
  let n := c.val.toNat
  (0x09 ≤ n && n ≤ 0x0D) || (0x1C ≤ n && n ≤ 0x20) || n == 0x85 || n == 0xA0 || n == 0x1680 ||
    (0x2000 ≤ n && n ≤ 0x200A) || n == 0x2028 || n == 0x2029 || n == 0x202F || n == 0x205F ||
    n == 0x3000

/-- Whether a text holds nothing but blanks. -/
def isBlankText (text : String) : Bool := text.toList.all isBlank

/-- Close the word whose letters were collected last first. -/
def closeWord (word : List Char) (done : List (List Char)) : List (List Char) :=
  match word with
  | [] => done
  | _ :: _ => word.reverse :: done

/-- Collect words: `done` holds the finished ones last first, `word` the letters of the open one
last first. -/
def collectWords (done : List (List Char)) (word : List Char) : List Char → List (List Char)
  | [] => (closeWord word done).reverse
  | c :: rest =>
    if isBlank c then collectWords (closeWord word done) [] rest
    else collectWords done (c :: word) rest

/-- The maximal runs of characters that are no blanks. -/
def words (text : String) : List String :=
  (collectWords [] [] text.toList).map String.ofList

/-- The blanks other than the four information separators. -/
def isMargin (c : Char) : Bool :=
  isBlank c && !(0x1C ≤ c.val.toNat && c.val.toNat ≤ 0x1F)

/-- The characters without those of the class `p` at the two ends. -/
def trim (p : Char → Bool) (chars : List Char) : List Char :=
  ((chars.dropWhile p).reverse.dropWhile p).reverse

end Calculator.Text
