import Calculator.Proofs.Json.Grammar
import Mathlib.Data.List.TakeWhile

/-!
# What is written beyond ASCII

Separators, words, numbers and escapes are ASCII. So a layout that leaves other characters as they
are writes those of the keys and texts of a value, and no more. In particular, a stand-in for a lone
surrogate is in the written value exactly if it is in the value, and then the value cannot be
encoded.

## Main definitions

* `Ascii`: characters are ASCII.
* `Layout.LeavesCharacters`: characters beyond ASCII are written as they are, and separators are
  ASCII.

## Main results

* `mem_render_iff`: the characters of a written value beyond ASCII.
* `complaint?_render_eq_none_iff`: **which written values can be encoded**.
-/

namespace Calculator

/-! ### Complaints of an encoder -/

namespace Text.Surrogate.Block

variable {block : Block} {c : Char}

/-- Stand-ins are beyond ASCII. -/
theorem not_ascii_of_contains (h : block.contains c = true) : 0x7F < c.val.toNat := by
  have hbeyond := block.beyond
  obtain ⟨hlow, -⟩ := contains_iff.mp h
  omega

/-- There is a first run of stand-ins if there is a stand-in. -/
theorem firstRun?_eq_none_iff {chars : List Char} :
    block.firstRun? chars = none ↔ ∀ c ∈ chars, block.contains c = false := by
  have hdrop (p : Char → Bool) : (chars.takeWhile p ++ chars.dropWhile p).drop
      (chars.takeWhile p).length = chars.dropWhile p := List.drop_left
  simp only [List.takeWhile_append_dropWhile] at hdrop
  rw [firstRun?, hdrop]
  cases hrest : chars.dropWhile fun c => !block.contains c with
  | nil =>
      have hnone := List.dropWhile_eq_nil_iff.mp hrest
      simpa using hnone
  | cons d rest =>
      have hd : block.contains d = true := by
        have hfirst := List.head?_dropWhile_not (fun c => !block.contains c) chars
        simpa [hrest] using hfirst
      have hmem : d ∈ chars := List.dropWhile_subset _ (hrest ▸ List.mem_cons_self)
      simp only [List.takeWhile_cons, hd, if_true, reduceCtorEq, false_iff]
      exact fun hnone => absurd (hnone d hmem) (by simp [hd])

/-- **An encoder complains** about a text exactly if there is a stand-in in it. -/
theorem complaint?_eq_none_iff {text : String} :
    block.complaint? text = none ↔ ∀ c ∈ text.toList, block.contains c = false := by
  rw [← firstRun?_eq_none_iff, complaint?]
  split <;> simp_all

end Text.Surrogate.Block

namespace Json

/-- All of the characters are ASCII. -/
def Ascii (chars : List Char) : Prop := ∀ c ∈ chars, c.val.toNat ≤ 0x7F

instance (chars : List Char) : Decidable (Ascii chars) := List.decidableBAll _ _

/-- What is in ASCII stays so when it is written one after the other. -/
theorem Ascii.append {front back : List Char} (hfront : Ascii front) (hback : Ascii back) :
    Ascii (front ++ back) :=
  List.forall_mem_append.mpr ⟨hfront, hback⟩

/-- Characters beyond ASCII are written as they are, and separators are ASCII. -/
structure Layout.LeavesCharacters (layout : Layout) : Prop where
  /-- Characters beyond ASCII are not escaped. -/
  asciiOnly : layout.asciiOnly = false
  /-- The separator of items is ASCII. -/
  item : Ascii layout.itemSeparator.toList
  /-- The separator of keys is ASCII. -/
  key : Ascii layout.keySeparator.toList

/-- The compact layout leaves characters as they are. -/
theorem Layout.leavesCharacters_compact : Layout.compact.LeavesCharacters :=
  ⟨rfl, by decide, by decide⟩

namespace Grammar

/-! ### Numbers -/

/-- Digits are ASCII. -/
private theorem ascii_of_isDigit {c : Char} (h : c.isDigit = true) : c.val.toNat ≤ 0x7F := by
  simp only [Char.isDigit, Bool.and_eq_true, decide_eq_true_eq] at h
  have hle : c.val.toNat ≤ 57 := UInt32.le_iff_toNat_le.mp h.2
  omega

/-- Digits are ASCII. -/
private theorem ascii_of_digits {chars : List Char} (h : Digits chars) : Ascii chars :=
  fun c hc => ascii_of_isDigit (h.2 c hc)

/-- A number is ASCII. -/
theorem ascii_of_number {chars : List Char} (h : Number chars) : Ascii chars := by
  have hsign {sign : List Char} (h : sign = [] ∨ sign = ['+'] ∨ sign = ['-']) : Ascii sign := by
    rcases h with rfl | rfl | rfl <;> decide
  obtain ⟨hminus, hwhole, hfraction, hexponent⟩ := h
  refine (((hsign (hminus.imp_right Or.inr)).append ?_).append ?_).append ?_
  · cases hwhole with
    | zero => decide
    | digits hdigits _ => exact ascii_of_digits hdigits
  · cases hfraction with
    | none => exact List.forall_mem_nil _
    | digits hdigits => exact List.forall_mem_cons.mpr ⟨by decide, ascii_of_digits hdigits⟩
  · cases hexponent with
    | none => exact List.forall_mem_nil _
    | digits hmark hsigned hdigits =>
        refine List.forall_mem_cons.mpr ⟨?_, (hsign hsigned).append (ascii_of_digits hdigits)⟩
        rcases hmark with rfl | rfl <;> decide

end Grammar

/-! ### Texts -/

variable {layout : Layout} {c : Char}

/-- Escapes are ASCII. -/
private theorem ascii_of_hexDigits (width n : Nat) : Ascii (Text.hexDigits width n) := by
  have hdigit : ∀ d < 16, (Text.hexDigit d).val.toNat ≤ 0x7F := by decide
  intro c hc
  simp only [Text.hexDigits, List.mem_map] at hc
  obtain ⟨d, -, rfl⟩ := hc
  exact hdigit _ (Nat.mod_lt _ (by decide))

/-- A control character is written in ASCII. -/
private theorem ascii_of_charEscape (d : Char) (hd : d.val.toNat < 0x10000) :
    Ascii (charEscape d) := by
  rw [charEscape, if_pos hd, unitEscape]
  exact List.forall_mem_cons.mpr ⟨by decide, List.forall_mem_cons.mpr
    ⟨by decide, ascii_of_hexDigits 4 _⟩⟩

/-- Beyond ASCII, what is written of a character is the character. -/
private theorem mem_stringChar_iff (hlayout : layout.LeavesCharacters) (hc : 0x7F < c.val.toNat)
    (d : Char) : c ∈ stringChar layout d ↔ c = d := by
  have hascii {chars : List Char} (hchars : Ascii chars) (hd : d.val.toNat ≤ 0x7F) :
      c ∈ chars ↔ c = d := by
    refine ⟨fun hmem => absurd (hchars c hmem) (Nat.not_le.mpr hc), ?_⟩
    rintro rfl
    exact absurd hd (Nat.not_le.mpr hc)
  rw [stringChar, hlayout.asciiOnly, Bool.false_and, if_neg Bool.false_ne_true]
  split_ifs with hmark hslash hline hreturn htab hfeed hback hcontrol
  · exact hascii (by decide) (by subst hmark; decide)
  · exact hascii (by decide) (by subst hslash; decide)
  · exact hascii (by decide) (by subst hline; decide)
  · exact hascii (by decide) (by subst hreturn; decide)
  · exact hascii (by decide) (by subst htab; decide)
  · exact hascii (by decide) (by subst hfeed; decide)
  · exact hascii (by decide) (by subst hback; decide)
  · exact hascii (ascii_of_charEscape d (by omega)) (by omega)
  · exact List.mem_singleton

/-- Beyond ASCII, a text is written as it is. -/
theorem mem_renderString_iff (hlayout : layout.LeavesCharacters) (hc : 0x7F < c.val.toNat)
    (text : String) : c ∈ (renderString layout text).toList ↔ c ∈ text.toList := by
  have hmark : c ≠ '"' := by
    rintro rfl
    exact absurd hc (by decide)
  simp [renderString, List.mem_flatMap, mem_stringChar_iff hlayout hc, hmark]

/-! ### Values -/

/-- A character beyond ASCII is not among ASCII characters. -/
theorem not_mem_of_ascii {chars : List Char} (h : Ascii chars) (hc : 0x7F < c.val.toNat) :
    c ∉ chars :=
  fun hmem => absurd (h c hmem) (Nat.not_le.mpr hc)

mutual

/-- **Beyond ASCII, a value is written with the characters of its keys and texts.** -/
theorem mem_render_iff (hlayout : layout.LeavesCharacters) (hc : 0x7F < c.val.toNat) (room : Nat) :
    ∀ value : Json, value.obstacle? true room = none →
      (c ∈ (render layout value).toList ↔ c ∈ value.characters)
  | .null, _ => by
      have hnone : c ∉ "null".toList := not_mem_of_ascii (by decide) hc
      simpa only [render, characters, List.not_mem_nil, iff_false] using hnone
  | .bool true, _ => by
      have hnone : c ∉ "true".toList := not_mem_of_ascii (by decide) hc
      simpa only [render, characters, List.not_mem_nil, iff_false] using hnone
  | .bool false, _ => by
      have hnone : c ∉ "false".toList := not_mem_of_ascii (by decide) hc
      simpa only [render, characters, List.not_mem_nil, iff_false] using hnone
  | .int n, _ => by
      have hnone := not_mem_of_ascii (Grammar.ascii_of_number (Grammar.number_toString n)) hc
      simpa only [render, characters, List.not_mem_nil, iff_false] using hnone
  | .float x, h => by
      have hfinite : Decimal.isFinite x = true := by simpa [obstacle?] using h
      have hnone := not_mem_of_ascii
        (Grammar.ascii_of_number (Grammar.number_text .json hfinite)) hc
      simpa only [render, characters, List.not_mem_nil, iff_false] using hnone
  | .str text, _ => by
      simpa only [render, characters] using mem_renderString_iff hlayout hc text
  | .arr items, h => by
      have hitems : itemsObstacle? true (room - 1) items = none := by
        rw [obstacle?] at h
        split at h <;> simp_all
      have hopen : c ∉ "[".toList := not_mem_of_ascii (by decide) hc
      have hclose : c ∉ "]".toList := not_mem_of_ascii (by decide) hc
      simp only [render, characters, String.toList_append, List.mem_append, hopen, hclose,
        false_or, or_false, mem_renderItems_iff hlayout hc (room - 1) items hitems]
  | .obj members, h => by
      have hmembers : membersObstacle? true (room - 1) members = none := by
        rw [obstacle?] at h
        split at h <;> simp_all
      have hopen : c ∉ "\x7b".toList := not_mem_of_ascii (by decide) hc
      have hclose : c ∉ "\x7d".toList := not_mem_of_ascii (by decide) hc
      simp only [render, characters, String.toList_append, List.mem_append, hopen, hclose,
        false_or, or_false, mem_renderMembers_iff hlayout hc (room - 1) members hmembers]

/-- Beyond ASCII, items are written with the characters of their keys and texts. -/
theorem mem_renderItems_iff (hlayout : layout.LeavesCharacters) (hc : 0x7F < c.val.toNat)
    (room : Nat) :
    ∀ items : List Json, itemsObstacle? true room items = none →
      (c ∈ (renderItems layout items).toList ↔ c ∈ itemCharacters items)
  | [], _ => by simp [renderItems, itemCharacters]
  | [item], h => by
      obtain ⟨hitem, -⟩ := Grammar.obstacle_or_eq_none.mp h
      simp only [renderItems, itemCharacters, List.append_nil,
        mem_render_iff hlayout hc room item hitem]
  | item :: next :: rest, h => by
      obtain ⟨hitem, hrest⟩ := Grammar.obstacle_or_eq_none.mp h
      have hseparator := not_mem_of_ascii hlayout.item hc
      simp only [renderItems, itemCharacters.eq_2 item, String.toList_append, List.mem_append,
        hseparator, or_false, mem_render_iff hlayout hc room item hitem,
        mem_renderItems_iff hlayout hc room (next :: rest) hrest]

/-- Beyond ASCII, members are written with the characters of their keys and texts. -/
theorem mem_renderMembers_iff (hlayout : layout.LeavesCharacters) (hc : 0x7F < c.val.toNat)
    (room : Nat) :
    ∀ members : Fields, membersObstacle? true room members = none →
      (c ∈ (renderMembers layout members).toList ↔ c ∈ memberCharacters members)
  | [], _ => by simp [renderMembers, memberCharacters]
  | [(key, value)], h => by
      obtain ⟨hvalue, -⟩ := Grammar.obstacle_or_eq_none.mp h
      have hseparator := not_mem_of_ascii hlayout.key hc
      simp only [renderMembers, memberCharacters, String.toList_append, List.mem_append,
        List.append_nil, hseparator, or_false, mem_renderString_iff hlayout hc,
        mem_render_iff hlayout hc room value hvalue]
  | (key, value) :: next :: rest, h => by
      obtain ⟨hvalue, hrest⟩ := Grammar.obstacle_or_eq_none.mp h
      have hkey := not_mem_of_ascii hlayout.key hc
      have hitem := not_mem_of_ascii hlayout.item hc
      simp only [renderMembers, memberCharacters.eq_2 key, String.toList_append, List.mem_append,
        hkey, hitem, or_false, mem_renderString_iff hlayout hc,
        mem_render_iff hlayout hc room value hvalue,
        mem_renderMembers_iff hlayout hc room (next :: rest) hrest]

end

/-- **Which written values can be encoded**: those without stand-ins in their keys and texts. -/
theorem complaint?_render_eq_none_iff {block : Text.Surrogate.Block} {value : Json} {room : Nat}
    (hlayout : layout.LeavesCharacters) (h : value.obstacle? true room = none) :
    block.complaint? (value.render layout) = none ↔
      ∀ c ∈ value.characters, block.contains c = false := by
  rw [Text.Surrogate.Block.complaint?_eq_none_iff]
  have hiff (c : Char) (hc : block.contains c = true) :
      c ∈ (value.render layout).toList ↔ c ∈ value.characters :=
    mem_render_iff hlayout (Text.Surrogate.Block.not_ascii_of_contains hc) room value h
  refine forall_congr' fun c => ?_
  cases hc : block.contains c with
  | false => simp
  | true => simp [hiff c hc]

end Json

end Calculator
