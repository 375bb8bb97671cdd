import Calculator.Proofs.Json.Members

/-!
# The grammar of strict JSON

What may stand in a JSON text, without a reader: a value is one of three words, a number, a text, a
list or an object, with spaces between the parts. There is no word for an infinity or for what is no
number. A value in which a strict writer meets no obstacle is always written as a text of this
grammar, in both layouts: an integer has no zero in front, a float has digits on both sides of its
point, and every character of a text is either plain or has one of the escapes.

## Main definitions

* `Grammar.Number`, `Grammar.Quotation`: numbers, and texts between their marks.
* `Grammar.Value`, `Grammar.Element`, `Grammar.Items`, `Grammar.Members`: values and their parts.
* `IsText`: a whole JSON text.

## Main results

* `Grammar.whole_digitsOf`, `Grammar.number_text`: the written numbers.
* `Grammar.quotation_renderString`: the written texts.
* `isText_render`: **a value without an obstacle is written as a JSON text**.
-/

namespace Calculator.Json

namespace Grammar

/-! ### The grammar -/

/-- Spaces, or nothing. -/
def Spaces (chars : List Char) : Prop := ∀ c ∈ chars, isSpace c = true

/-- Nothing is spaces, too. -/
theorem spaces_nil : Spaces [] := by simp [Spaces]

/-- Digits, at least one. -/
def Digits (chars : List Char) : Prop := chars ≠ [] ∧ ∀ c ∈ chars, c.isDigit = true

/-- The integral part of a number: a zero on its own, or digits that start with another one. -/
inductive Whole : List Char → Prop
  | zero : Whole ['0']
  | digits {chars : List Char} (hdigits : Digits chars) (hfirst : chars.head? ≠ some '0') :
      Whole chars

/-- The fraction of a number, if it has one. -/
inductive Fraction : List Char → Prop
  | none : Fraction []
  | digits {chars : List Char} (hdigits : Digits chars) : Fraction ('.' :: chars)

/-- The exponent of a number, if it has one. -/
inductive Exponent : List Char → Prop
  | none : Exponent []
  | digits {mark : Char} {sign chars : List Char} (hmark : mark = 'e' ∨ mark = 'E')
      (hsign : sign = [] ∨ sign = ['+'] ∨ sign = ['-']) (hdigits : Digits chars) :
      Exponent (mark :: (sign ++ chars))

/-- A number. -/
inductive Number : List Char → Prop
  | mk {sign whole fraction exponent : List Char} (hsign : sign = [] ∨ sign = ['-'])
      (hwhole : Whole whole) (hfraction : Fraction fraction) (hexponent : Exponent exponent) :
      Number (sign ++ whole ++ fraction ++ exponent)

/-- A character of a text: plain, with an escape of one letter, or one of its UTF-16 units. -/
inductive Character : List Char → Prop
  | plain {c : Char} (hmark : c ≠ '"') (hslash : c ≠ '\\') (hcontrol : 0x20 ≤ c.val.toNat) :
      Character [c]
  | escape {c : Char} (h : (simpleEscape? c).isSome) : Character ['\\', c]
  | unit {a b c d : Char} (h : (hexUnit? a b c d).isSome) : Character ['\\', 'u', a, b, c, d]

/-- The characters of a text. -/
inductive Characters : List Char → Prop
  | nil : Characters []
  | cons {chars rest : List Char} (h : Character chars) (hrest : Characters rest) :
      Characters (chars ++ rest)

/-- A text between its marks. -/
inductive Quotation : List Char → Prop
  | mk {chars : List Char} (h : Characters chars) : Quotation ('"' :: (chars ++ ['"']))

mutual

/-- A value: one of three words, a number, a text, a list or an object. -/
inductive Value : List Char → Prop
  | null : Value ['n', 'u', 'l', 'l']
  | true : Value ['t', 'r', 'u', 'e']
  | false : Value ['f', 'a', 'l', 's', 'e']
  | number {chars : List Char} (h : Number chars) : Value chars
  | text {chars : List Char} (h : Quotation chars) : Value chars
  | emptyList {spaces : List Char} (h : Spaces spaces) : Value ('[' :: (spaces ++ [']']))
  | list {items : List Char} (h : Items items) : Value ('[' :: (items ++ [']']))
  | emptyObject {spaces : List Char} (h : Spaces spaces) :
      Value ('\x7b' :: (spaces ++ ['\x7d']))
  | object {members : List Char} (h : Members members) :
      Value ('\x7b' :: (members ++ ['\x7d']))

/-- A value with spaces around it. -/
inductive Element : List Char → Prop
  | mk {before chars after : List Char} (hbefore : Spaces before) (h : Value chars)
      (hafter : Spaces after) : Element (before ++ chars ++ after)

/-- The items of a list. -/
inductive Items : List Char → Prop
  | last {chars : List Char} (h : Element chars) : Items chars
  | more {chars rest : List Char} (h : Element chars) (hrest : Items rest) :
      Items (chars ++ ',' :: rest)

/-- A member of an object. -/
inductive Member : List Char → Prop
  | mk {before key after chars : List Char} (hbefore : Spaces before) (hkey : Quotation key)
      (hafter : Spaces after) (h : Element chars) : Member (before ++ key ++ after ++ ':' :: chars)

/-- The members of an object. -/
inductive Members : List Char → Prop
  | last {chars : List Char} (h : Member chars) : Members chars
  | more {chars rest : List Char} (h : Member chars) (hrest : Members rest) :
      Members (chars ++ ',' :: rest)

end

end Grammar

/-- A whole JSON text: a value with spaces around it. -/
def IsText (text : String) : Prop := Grammar.Element text.toList

namespace Grammar

/-! ### Numbers -/

/-- Digits that follow digits are digits. -/
theorem Digits.append {first second : List Char} (h : Digits first)
    (hsecond : ∀ c ∈ second, c.isDigit = true) : Digits (first ++ second) :=
  ⟨List.append_ne_nil_of_left_ne_nil h.1 _, List.forall_mem_append.mpr ⟨h.2, hsecond⟩⟩

/-- The digits of a number are digits. -/
theorem digits_digitsOf (n : Nat) : Digits (Decimal.digitsOf n) :=
  ⟨Nat.toDigits_ne_nil, fun _ => Nat.isDigit_of_mem_toDigits (by decide) (by decide)⟩

/-- The digits of a number start with a zero only if it is zero. -/
theorem head?_digitsOf {n : Nat} (hn : n ≠ 0) : (Decimal.digitsOf n).head? ≠ some '0' := by
  induction n using Nat.strongRecOn with
  | ind n ih =>
      rw [Decimal.digitsOf, Nat.toDigits_eq_if (by decide)]
      split
      · simpa using hn
      · next hle =>
        rw [List.head?_append_of_ne_nil _ Nat.toDigits_ne_nil]
        exact ih (n / 10) (by omega) (by omega)

/-- A natural number is written as the integral part of a number. -/
theorem whole_digitsOf (n : Nat) : Whole (Decimal.digitsOf n) := by
  rcases Nat.eq_zero_or_pos n with rfl | hpos
  · exact .zero
  · exact .digits (digits_digitsOf n) (head?_digitsOf (Nat.ne_of_gt hpos))

/-- An integer is written as a number. -/
theorem number_toString (n : Int) : Number (toString n).toList := by
  have hnumber {sign : List Char} (hsign : sign = [] ∨ sign = ['-']) (n : Nat) :
      Number (sign ++ Decimal.digitsOf n) := by
    have h : Number (sign ++ Decimal.digitsOf n ++ [] ++ []) :=
      .mk hsign (whole_digitsOf n) .none .none
    simpa using h
  cases n with
  | ofNat n =>
      have h := hnumber (Or.inl rfl) n
      simpa [Decimal.digitsOf, toString, Int.repr] using h
  | negSucc n =>
      have h := hnumber (Or.inr rfl) (n + 1)
      simpa [Decimal.digitsOf, toString, Int.repr] using h

/-- Zeros at the end can be moved away without anything left. -/
private theorem stripZeros_ne_zero (fuel : Nat) {d : Decimal.Scaled} (h : d.digits ≠ 0) :
    (Decimal.stripZeros fuel d).digits ≠ 0 := by
  induction fuel generalizing d with
  | zero => exact h
  | succ fuel ih =>
      rw [Decimal.stripZeros]
      split
      · next htens =>
        have hrest : d.digits / 10 ≠ 0 := by omega
        exact ih hrest
      · exact h

/-- The search finds no zero. -/
private theorem shortest?_ne_zero {x : Decimal.Binary} {d : Decimal.Scaled}
    (h : Decimal.shortest? x = some d) : d.digits ≠ 0 := by
  obtain ⟨place, -, hplace⟩ := List.exists_of_findSome?_eq_some h
  split at hplace
  · split at hplace
    · simp at hplace
    · next hne => exact Option.some.inj hplace ▸ hne
  · simp at hplace

/-- The shortest decimal of what is not zero is not zero. -/
theorem shortest_ne_zero {x : Decimal.Binary} (h : x.m ≠ 0) :
    (Decimal.shortest x).digits ≠ 0 := by
  refine stripZeros_ne_zero _ ?_
  cases hfound : Decimal.shortest? x with
  | some d => exact shortest?_ne_zero hfound
  | none =>
      rw [Option.getD_none, Decimal.Binary.exact]
      split
      · exact Nat.mul_ne_zero h (Nat.ne_of_gt (Nat.pow_pos (by decide)))
      · exact Nat.mul_ne_zero h (Nat.ne_of_gt (Nat.pow_pos (by decide)))

/-- An exponent is written as one. -/
theorem exponent_exponentText (e : Int) : Exponent ('e' :: Decimal.exponentText e) := by
  have hdigits := digits_digitsOf e.natAbs
  have hpadded : Digits (if (Decimal.digitsOf e.natAbs).length < 2 then
      '0' :: Decimal.digitsOf e.natAbs else Decimal.digitsOf e.natAbs) := by
    split
    · exact ⟨by simp, List.forall_mem_cons.mpr ⟨rfl, hdigits.2⟩⟩
    · exact hdigits
  rw [Decimal.exponentText]
  split
  · exact .digits (Or.inl rfl) (Or.inr (Or.inr rfl)) hpadded
  · exact .digits (Or.inl rfl) (Or.inr (Or.inl rfl)) hpadded

/-- A decimal other than zero is written as a number. -/
theorem number_layOut {sign : List Char} (hsign : sign = [] ∨ sign = ['-']) {d : Decimal.Scaled}
    (h : d.digits ≠ 0) : Number (sign ++ Decimal.layOut d) := by
  have hdigits := digits_digitsOf d.digits
  have hfirst := head?_digitsOf h
  have hzeros (n : Nat) : ∀ c ∈ List.replicate n '0', c.isDigit = true := by
    intro c hc
    obtain rfl := List.eq_of_mem_replicate hc
    rfl
  rw [Decimal.layOut]
  generalize Decimal.digitsOf d.digits = digits at hdigits hfirst
  split_ifs with hpositional hwhole hinside
  · -- all digits stand before the point
    have hhead : (digits ++ List.replicate d.exponent.toNat '0').head? ≠ some '0' := by
      rwa [List.head?_append_of_ne_nil _ hdigits.1]
    have hnumber := Number.mk hsign (.digits (hdigits.append (hzeros _)) hhead)
      (.digits (digits_digitsOf 0)) .none
    simpa [Decimal.digitsOf] using hnumber
  · -- the point stands among the digits
    have hbehind : (d.exponent + digits.length - 1).toNat + 1 < digits.length := by omega
    generalize (d.exponent + digits.length - 1).toNat = place at hbehind ⊢
    have hbefore : Digits (digits.take (place + 1)) :=
      ⟨by simp [hdigits.1], fun c hc => hdigits.2 c (List.mem_of_mem_take hc)⟩
    have hafter : Digits (digits.drop (place + 1)) :=
      ⟨by simpa using hbehind, fun c hc => hdigits.2 c (List.mem_of_mem_drop hc)⟩
    have hhead : (digits.take (place + 1)).head? ≠ some '0' := by
      rwa [List.head?_take, if_neg (Nat.succ_ne_zero place)]
    have hnumber := Number.mk hsign (.digits hbefore hhead) (.digits hafter) .none
    simpa using hnumber
  · -- zeros stand between the point and the digits
    have hafter : Digits
        (List.replicate (-(d.exponent + digits.length - 1) - 1).toNat '0' ++ digits) :=
      ⟨by simp [hdigits.1], List.forall_mem_append.mpr ⟨hzeros _, hdigits.2⟩⟩
    have hnumber := Number.mk hsign .zero (.digits hafter) .none
    simpa using hnumber
  · -- one digit stands before the point, and there is an exponent
    have hexponent := exponent_exponentText (d.exponent + digits.length - 1)
    obtain ⟨hne, hall⟩ := hdigits
    match digits with
    | [] => simp at hne
    | [first] =>
        have hnumber := Number.mk hsign (.digits ⟨hne, hall⟩ hfirst) .none hexponent
        simpa using hnumber
    | first :: second :: rest =>
        obtain ⟨hdigit, hrest⟩ := List.forall_mem_cons.mp hall
        have hbefore : Digits [first] := ⟨by simp, by simpa using hdigit⟩
        have hafter : Digits (second :: rest) := ⟨by simp, hrest⟩
        have hnumber := Number.mk hsign (.digits hbefore hfirst) (.digits hafter) hexponent
        simpa using hnumber

/-- **A finite float is written as a number.** -/
theorem number_text (special : Decimal.SpecialTexts) {x : Float} (h : Decimal.isFinite x = true) :
    Number (Decimal.text special x).toList := by
  have hbody {sign : List Char} (hsign : sign = [] ∨ sign = ['-']) :
      Number (sign ++ if (Decimal.Binary.ofBits x.toBits).m = 0 then ['0', '.', '0']
        else Decimal.layOut (Decimal.shortest (Decimal.Binary.ofBits x.toBits))) := by
    split
    · have hzero : Number (sign ++ ['0'] ++ ['.', '0'] ++ []) :=
        .mk hsign .zero (.digits ⟨by simp, by simp⟩) .none
      simpa using hzero
    · next hne => exact number_layOut hsign (shortest_ne_zero hne)
  rw [Decimal.text, if_pos h, String.toList_ofList]
  split
  · exact hbody (Or.inr rfl)
  · exact hbody (Or.inl rfl)

/-! ### Texts -/

/-- Characters that follow characters are characters. -/
theorem Characters.append {first second : List Char} (h : Characters first)
    (hsecond : Characters second) : Characters (first ++ second) := by
  induction h with
  | nil => exact hsecond
  | cons h hrest ih => exact List.append_assoc .. ▸ .cons h ih

/-- One character of a text, on its own. -/
theorem Character.characters {chars : List Char} (h : Character chars) : Characters chars :=
  List.append_nil chars ▸ .cons h .nil

/-- The escape of a UTF-16 unit is a character. -/
theorem character_unitEscape {unit : Nat} (h : unit < 0x10000) : Character (unitEscape unit) := by
  obtain ⟨a, b, c, d, hdigits, hunit⟩ := hexUnit?_hexDigits h
  rw [unitEscape, hdigits]
  exact .unit (by simp [hunit])

/-- The escape of a character by its UTF-16 units. -/
theorem characters_charEscape (c : Char) : Characters (charEscape c) := by
  have hrange := Text.codePoint_lt c
  rw [charEscape]
  split_ifs with hone
  · exact (character_unitEscape hone).characters
  · exact .append (character_unitEscape (by omega)).characters
      (character_unitEscape (by omega)).characters

/-- The escape of a character, or of the lone surrogate that it stands for. -/
theorem characters_escape (layout : Layout) (c : Char) : Characters (layout.escape c) := by
  rw [Layout.escape]
  split
  · exact characters_charEscape c
  · split
    · next block _ hcontains =>
      exact (character_unitEscape (block.surrogate_lt hcontains)).characters
    · exact characters_charEscape c

/-- What is written for a character. -/
theorem characters_stringChar (layout : Layout) (c : Char) :
    Characters (stringChar layout c) := by
  rw [stringChar]
  split_ifs with hmark hslash
  · exact (Character.escape rfl).characters
  · exact (Character.escape rfl).characters
  · exact (Character.escape rfl).characters
  · exact (Character.escape rfl).characters
  · exact (Character.escape rfl).characters
  · exact (Character.escape rfl).characters
  · exact (Character.escape rfl).characters
  · exact characters_charEscape c
  · exact characters_escape layout c
  · next hcontrol _ => exact (Character.plain hmark hslash (by omega)).characters

/-- **A text is written between its marks.** -/
theorem quotation_renderString (layout : Layout) (text : String) :
    Quotation (renderString layout text).toList := by
  have hcharacters (chars : List Char) : Characters (chars.flatMap (stringChar layout)) := by
    induction chars with
    | nil => exact .nil
    | cons c rest ih => exact (characters_stringChar layout c).append ih
  rw [renderString, String.toList_ofList]
  exact .mk (hcharacters _)

/-! ### Spaces -/

section

variable {spaces chars : List Char}

/-- Spaces in front of a value with spaces. -/
theorem Element.indent (hspaces : Spaces spaces) (h : Element chars) :
    Element (spaces ++ chars) := by
  obtain ⟨hbefore, h, hafter⟩ := h
  simpa using Element.mk (List.forall_mem_append.mpr ⟨hspaces, hbefore⟩) h hafter

/-- Spaces in front of items. -/
theorem Items.indent (hspaces : Spaces spaces) (h : Items chars) : Items (spaces ++ chars) := by
  cases h with
  | last h => exact .last (h.indent hspaces)
  | more h hrest => simpa using Items.more (h.indent hspaces) hrest

/-- Spaces in front of a member. -/
theorem Member.indent (hspaces : Spaces spaces) (h : Member chars) : Member (spaces ++ chars) := by
  obtain ⟨hbefore, hkey, hafter, h⟩ := h
  simpa using Member.mk (List.forall_mem_append.mpr ⟨hspaces, hbefore⟩) hkey hafter h

/-- Spaces in front of members. -/
theorem Members.indent (hspaces : Spaces spaces) (h : Members chars) :
    Members (spaces ++ chars) := by
  cases h with
  | last h => exact .last (h.indent hspaces)
  | more h hrest => simpa using Members.more (h.indent hspaces) hrest

/-- A value with no spaces around it. -/
theorem Value.element (h : Value chars) : Element chars := by
  simpa using Element.mk spaces_nil h spaces_nil

end

end Grammar

/-! ### Values -/

/-- A layout puts a comma between items and a colon behind a key, and besides only spaces. -/
structure Layout.Separates (layout : Layout) : Prop where
  /-- A comma and spaces. -/
  item : ∃ spaces, Grammar.Spaces spaces ∧ layout.itemSeparator.toList = ',' :: spaces
  /-- A colon and spaces. -/
  key : ∃ spaces, Grammar.Spaces spaces ∧ layout.keySeparator.toList = ':' :: spaces

/-- The layout without spaces separates. -/
theorem Layout.separates_compact : Layout.compact.Separates :=
  ⟨⟨[], Grammar.spaces_nil, rfl⟩, ⟨[], Grammar.spaces_nil, rfl⟩⟩

/-- The layout with spaces separates. -/
theorem Layout.separates_spaced : Layout.spaced.Separates := by
  have hspace : Grammar.Spaces [' '] := by simp [Grammar.Spaces, isSpace]
  exact ⟨⟨[' '], hspace, rfl⟩, ⟨[' '], hspace, rfl⟩⟩

/-- Stand-ins change nothing about separators. -/
theorem Layout.Separates.withStandIns {layout : Layout} (h : layout.Separates)
    (standIns : Option Text.Surrogate.Block) : (layout.withStandIns standIns).Separates :=
  ⟨h.item, h.key⟩

namespace Grammar

variable {layout : Layout} {room : Nat}

/-- A written member. -/
theorem member_render (hlayout : layout.Separates) (key : String) {chars : List Char}
    (h : Value chars) : Member
      ((renderString layout key ++ layout.keySeparator).toList ++ chars) := by
  obtain ⟨spaces, hspaces, hseparator⟩ := hlayout.key
  have hmember := Member.mk spaces_nil (quotation_renderString layout key) spaces_nil
    (h.element.indent hspaces)
  simpa [hseparator] using hmember

/-- Of two values that are written one after the other, neither is an obstacle. -/
theorem obstacle_or_eq_none {first second : Option Obstacle} :
    first.or second = none ↔ first = none ∧ second = none := by
  cases first <;> simp

mutual

/-- A value without an obstacle is written as a value. -/
theorem value_render (hlayout : layout.Separates) (room : Nat) :
    ∀ value : Json, value.obstacle? true room = none → Value (render layout value).toList
  | .null, _ => by simpa [render] using Value.null
  | .bool true, _ => by simpa [render] using Value.true
  | .bool false, _ => by simpa [render] using Value.false
  | .int n, _ => by simpa [render] using Value.number (number_toString n)
  | .float x, h => by
      have hfinite : Decimal.isFinite x = true := by simpa [obstacle?] using h
      simpa [render] using Value.number (number_text .json hfinite)
  | .str text, _ => by
      simpa [render] using Value.text (quotation_renderString layout text)
  | .arr [], _ => by simpa [render, renderItems] using Value.emptyList spaces_nil
  | .arr (item :: rest), h => by
      have hitems : itemsObstacle? true (room - 1) (item :: rest) = none := by
        rw [obstacle?] at h
        split at h <;> simp_all
      simpa [render] using
        Value.list (items_render hlayout (room - 1) (item :: rest) (by simp) hitems)
  | .obj [], _ => by simpa [render, renderMembers] using Value.emptyObject spaces_nil
  | .obj (member :: rest), h => by
      have hmembers : membersObstacle? true (room - 1) (member :: rest) = none := by
        rw [obstacle?] at h
        split at h <;> simp_all
      simpa [render] using
        Value.object (members_render hlayout (room - 1) (member :: rest) (by simp) hmembers)

/-- Items without an obstacle are written as items. -/
theorem items_render (hlayout : layout.Separates) (room : Nat) :
    ∀ items : List Json, items ≠ [] → itemsObstacle? true room items = none →
      Items (renderItems layout items).toList
  | [], hne, _ => absurd rfl hne
  | [item], _, h => by
      obtain ⟨hitem, -⟩ := obstacle_or_eq_none.mp h
      simpa [renderItems] using Items.last (value_render hlayout room item hitem).element
  | item :: next :: rest, _, h => by
      obtain ⟨hitem, hrest⟩ := obstacle_or_eq_none.mp h
      obtain ⟨spaces, hspaces, hseparator⟩ := hlayout.item
      have hitems := Items.more (value_render hlayout room item hitem).element
        ((items_render hlayout room (next :: rest) (by simp) hrest).indent hspaces)
      simpa [renderItems, hseparator] using hitems

/-- Members without an obstacle are written as members. -/
theorem members_render (hlayout : layout.Separates) (room : Nat) :
    ∀ members : Fields, members ≠ [] → membersObstacle? true room members = none →
      Members (renderMembers layout members).toList
  | [], hne, _ => absurd rfl hne
  | [(key, value)], _, h => by
      obtain ⟨hvalue, -⟩ := obstacle_or_eq_none.mp h
      have hmember := member_render hlayout key (value_render hlayout room value hvalue)
      simpa [renderMembers] using Members.last hmember
  | (key, value) :: next :: rest, _, h => by
      obtain ⟨hvalue, hrest⟩ := obstacle_or_eq_none.mp h
      obtain ⟨spaces, hspaces, hseparator⟩ := hlayout.item
      have hmembers := Members.more
        (member_render hlayout key (value_render hlayout room value hvalue))
        ((members_render hlayout room (next :: rest) (by simp) hrest).indent hspaces)
      simpa [renderMembers, hseparator] using hmembers

end

end Grammar

/-- **A value without an obstacle is written as a JSON text**, in every layout that separates as
JSON does. -/
theorem isText_render {layout : Layout} (hlayout : layout.Separates) {value : Json} {room : Nat}
    (h : value.obstacle? true room = none) : IsText (value.render layout) :=
  (Grammar.value_render hlayout room value h).element

end Calculator.Json
