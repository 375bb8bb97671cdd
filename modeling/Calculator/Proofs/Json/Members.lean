import Calculator.Proofs.Json.Reading

/-!
# Members of objects

An object that was read has no key twice, since a repeated key is filed in the place of the first.
And a plain text in a written object is told from every other text in its place, whatever follows:
the marks around a written text show where it ends.

## Main definitions

* `IsPlain`: a text that every layout writes as it is.
* `furtherMembers`: what follows the first member of a written object.

## Main results

* `nodup_keys_of_read`: the keys of an object that was read differ from each other.
* `stringChar_cases`: what is written of a character.
* `IsPlain.eq_of_marked`: a plain text is told from every other one.
* `toList_render_cons`, `furtherMembers_cons`: the members of a written object, one by one.
-/

namespace Calculator.Json

/-! ### Keys of objects that were read -/

variable {lone : Nat → Char} {fuel depth : Nat} {chars rest : List Char}

/-- A number is no object. -/
private theorem readNumber_ne_obj (negative : Bool) (chars : List Char) (members : Fields)
    (rest : List Char) : readNumber negative chars ≠ some (.obj members, rest) := by
  intro h
  cases hwhole : integralDigits? chars with
  | none => simp [readNumber, hwhole] at h
  | some span =>
      cases hpart : fraction? span.2 with
      | some part =>
          cases hexponent : exponent? part.2 <;>
            simp [readNumber, hwhole, hpart, hexponent] at h
      | none =>
          cases hexponent : exponent? span.2 <;>
            simp [readNumber, hwhole, hpart, hexponent] at h

/-- Numbers, words and texts are no objects. -/
private theorem readScalar_ne_obj (lone : Nat → Char) (chars : List Char) (members : Fields)
    (rest : List Char) : readScalar lone chars ≠ some (.obj members, rest) := by
  intro h
  rw [readScalar.eq_def] at h
  split at h
  case h_8 => exact readNumber_ne_obj _ _ _ _ h
  case h_9 => exact readNumber_ne_obj _ _ _ _ h
  all_goals simp [Option.map_eq_some_iff] at h

/-- The items of a list make a list. -/
private theorem exists_arr_of_readItems {read : List Json} {value : Json}
    (h : readItems lone fuel depth read chars = .ok (value, rest)) :
    ∃ items, value = .arr items := by
  induction fuel generalizing read chars with
  | zero => simp [readItems] at h
  | succ fuel ih =>
      rw [readItems] at h
      split at h
      · simp at h
      · split at h
        · exact ih h
        · obtain ⟨rfl, -⟩ := Prod.mk.inj (Except.ok.inj h)
          exact ⟨_, rfl⟩
        · simp at h

/-- A member is filed under its key, so the keys stay apart. -/
private theorem nodup_keys_of_readMembers {read members : Fields}
    (hread : (Table.keys read).Nodup)
    (h : readMembers lone fuel depth read chars = .ok (.obj members, rest)) :
    (Table.keys members).Nodup := by
  -- the members read so far carry the invariant from one call to the next
  induction fuel generalizing read chars with
  | zero => simp [readMembers] at h
  | succ fuel ih =>
      rw [readMembers.eq_def] at h
      simp only at h
      split at h
      · split at h
        · simp at h
        · next key rest' _ =>
          split at h
          · split at h
            · simp at h
            · next value rest'' _ =>
              have hinsert := Table.nodup_keys_insert hread key value
              split at h
              · exact ih hinsert h
              · obtain ⟨hmembers, -⟩ := Prod.mk.inj (Except.ok.inj h)
                obtain rfl := Json.obj.inj hmembers
                exact hinsert
              · simp at h
          · simp at h
      · simp at h

/-- An object that is read as a value has no key twice. -/
private theorem nodup_keys_of_readValue {members : Fields}
    (h : readValue lone fuel depth chars = .ok (.obj members, rest)) :
    (Table.keys members).Nodup := by
  rw [readValue.eq_def] at h
  split at h
  · simp at h
  · split at h
    · simp at h
    · simp at h
    · split at h
      · simp at h
      · obtain ⟨items, hitems⟩ := exists_arr_of_readItems h
        simp at hitems
    · split at h
      · obtain ⟨hmembers, -⟩ := Prod.mk.inj (Except.ok.inj h)
        obtain rfl := Json.obj.inj hmembers
        exact List.nodup_nil
      · have hnone : (Table.keys ([] : Fields)).Nodup := List.nodup_nil
        exact nodup_keys_of_readMembers hnone h
    · split at h
      · next result hscalar =>
        obtain rfl := Except.ok.inj h
        exact absurd hscalar (readScalar_ne_obj lone chars members rest)
      · simp at h

/-- **An object that was read has no key twice.** -/
theorem nodup_keys_of_read {members : Fields} (h : read lone depth chars = .ok (.obj members)) :
    (Table.keys members).Nodup := by
  rw [read] at h
  split at h
  · simp at h
  · next value rest hvalue =>
    split at h
    · obtain rfl := Except.ok.inj h
      exact nodup_keys_of_readValue hvalue
    · simp at h

/-! ### Plain texts -/

/-- A text that every layout writes as it is: printable ASCII without the mark and the backslash. -/
def IsPlain (text : String) : Prop :=
  ∀ c ∈ text.toList, c ≠ '"' ∧ c ≠ '\\' ∧ 0x20 ≤ c.val.toNat ∧ c.val.toNat ≤ 0x7E

instance (text : String) : Decidable (IsPlain text) := List.decidableBAll _ _

variable {layout : Layout} {c : Char} {text text' : String} {after after' : List Char}

/-- A character is written as it is, if it is neither a mark nor a backslash, or as an escape. -/
theorem stringChar_cases (layout : Layout) (c : Char) :
    stringChar layout c = [c] ∧ c ≠ '"' ∧ c ≠ '\\' ∨
      ∃ escape, stringChar layout c = '\\' :: escape := by
  have hunit (unit : Nat) : ∃ escape, unitEscape unit = '\\' :: escape := ⟨_, rfl⟩
  have hchar : ∃ escape, charEscape c = '\\' :: escape := by
    rw [charEscape]
    split
    · exact hunit _
    · exact ⟨_, rfl⟩
  have hescape : ∃ escape, layout.escape c = '\\' :: escape := by
    rw [Layout.escape]
    split
    · exact hchar
    · split
      · exact hunit _
      · exact hchar
  by_cases hmark : c = '"'
  · exact Or.inr ⟨_, if_pos hmark⟩
  by_cases hslash : c = '\\'
  · exact Or.inr ⟨_, (if_neg hmark).trans (if_pos hslash)⟩
  by_cases hletter : c = '\n' ∨ c = '\r' ∨ c = '\t' ∨ c = '\x0c' ∨ c = '\x08'
  · -- the control characters that have an escape with a letter
    rcases hletter with rfl | rfl | rfl | rfl | rfl <;> exact Or.inr ⟨_, rfl⟩
  obtain ⟨hline, hreturn, htab, hfeed, hback⟩ := by simpa only [not_or] using hletter
  rw [stringChar, if_neg hmark, if_neg hslash, if_neg hline, if_neg hreturn, if_neg htab,
    if_neg hfeed, if_neg hback]
  split
  · exact Or.inr hchar
  · split
    · exact Or.inr hescape
    · exact Or.inl ⟨rfl, hmark, hslash⟩

/-- A plain text is written as it is. -/
theorem IsPlain.marked_eq (h : IsPlain text) (layout : Layout) :
    marked layout text = text.toList := by
  rw [marked, List.flatMap_congr (g := fun c => [c]) fun c hc => ?_, List.flatMap_singleton']
  obtain ⟨hmark, hslash, hlow, hhigh⟩ := h c hc
  have hcontrol : ∀ control : Char, control.val.toNat < 0x20 → c ≠ control := by
    rintro control hlt rfl
    omega
  have hbeyond : ¬ (layout.asciiOnly && decide (0x7E < c.val.toNat)) = true := by
    rw [Bool.and_eq_true, decide_eq_true_eq]
    exact fun hboth => Nat.not_lt.mpr hhigh hboth.2
  rw [stringChar, if_neg hmark, if_neg hslash, if_neg (hcontrol '\n' (by decide)),
    if_neg (hcontrol '\r' (by decide)), if_neg (hcontrol '\t' (by decide)),
    if_neg (hcontrol '\x0c' (by decide)), if_neg (hcontrol '\x08' (by decide)),
    if_neg (Nat.not_lt.mpr hlow), if_neg hbeyond]

/-- **A plain text is told from every other one** by what is written of it up to the closing
mark. -/
theorem IsPlain.eq_of_marked (h : IsPlain text)
    (heq : marked layout text' ++ '"' :: after' = text.toList ++ '"' :: after) :
    text' = text := by
  rw [marked] at heq
  suffices hchars : text'.toList = text.toList from String.toList_inj.mp hchars
  rw [IsPlain] at h
  generalize text.toList = chars at h heq ⊢
  generalize text'.toList = chars' at heq ⊢
  -- both texts are gone through together: an escape would begin with a backslash
  induction chars' generalizing chars with
  | nil =>
      cases chars with
      | nil => rfl
      | cons c rest =>
          obtain ⟨hmark, -⟩ := h c List.mem_cons_self
          exact absurd (List.cons.inj heq).1.symm hmark
  | cons c' rest' ih =>
      rw [List.flatMap_cons, List.append_assoc] at heq
      rcases stringChar_cases layout c' with ⟨hchar, hmark', -⟩ | ⟨escape, hchar⟩
      · rw [hchar] at heq
        cases chars with
        | nil => exact absurd (List.cons.inj heq).1 hmark'
        | cons c rest =>
            obtain ⟨rfl, hrest⟩ := List.cons.inj heq
            rw [ih rest (fun d hd => h d (List.mem_cons_of_mem _ hd)) hrest]
      · rw [hchar] at heq
        cases chars with
        | nil => exact absurd (List.cons.inj heq).1 (by decide)
        | cons c rest =>
            obtain ⟨-, hslash, -⟩ := h c List.mem_cons_self
            exact absurd (List.cons.inj heq).1.symm hslash

/-- Two plain texts are told from each other. -/
theorem IsPlain.eq_of_toList (h : IsPlain text) (h' : IsPlain text')
    (heq : text'.toList ++ '"' :: after' = text.toList ++ '"' :: after) : text' = text := by
  rw [← h'.marked_eq .compact] at heq
  exact h.eq_of_marked heq

/-! ### Written members -/

/-- What follows the first member of a written object. -/
def furtherMembers (layout : Layout) (rest : Fields) : List Char :=
  match rest with
  | [] => ['\x7d']
  | member :: rest =>
    layout.itemSeparator.toList ++ ((renderMembers layout (member :: rest)).toList ++ ['\x7d'])

/-- A written text stands between marks. -/
theorem toList_renderString (layout : Layout) (text : String) :
    (renderString layout text).toList = '"' :: (marked layout text ++ ['"']) := by
  rw [renderString, String.toList_ofList, marked]

/-- A written text stands between marks. -/
theorem toList_render_str (layout : Layout) (text : String) :
    (render layout (.str text)).toList = '"' :: (marked layout text ++ ['"']) := by
  rw [render, toList_renderString]

/-- Members begin with the key and the value of the first one. -/
private theorem toList_renderMembers_cons (layout : Layout) (key : String) (value : Json)
    (rest : Fields) :
    (renderMembers layout ((key, value) :: rest)).toList ++ ['\x7d'] =
      '"' :: (marked layout key ++ '"' :: (layout.keySeparator.toList ++
        ((render layout value).toList ++ furtherMembers layout rest))) := by
  cases rest with
  | nil =>
      simp only [renderMembers, furtherMembers, String.toList_append, toList_renderString,
        List.append_assoc, List.cons_append, List.nil_append]
  | cons member rest =>
      simp only [renderMembers, furtherMembers, String.toList_append, toList_renderString,
        List.append_assoc, List.cons_append, List.nil_append]

/-- A written object begins with the key and the value of its first member. -/
theorem toList_render_cons (layout : Layout) (key : String) (value : Json) (rest : Fields) :
    (render layout (.obj ((key, value) :: rest))).toList =
      '\x7b' :: '"' :: (marked layout key ++ '"' :: (layout.keySeparator.toList ++
        ((render layout value).toList ++ furtherMembers layout rest))) := by
  rw [render, String.toList_append, String.toList_append, List.append_assoc]
  exact congrArg ('\x7b' :: ·) (toList_renderMembers_cons layout key value rest)

/-- Further members begin with the key and the value of the second one. -/
theorem furtherMembers_cons (layout : Layout) (key : String) (value : Json) (rest : Fields) :
    furtherMembers layout ((key, value) :: rest) =
      layout.itemSeparator.toList ++ '"' :: (marked layout key ++ '"' ::
        (layout.keySeparator.toList ++ ((render layout value).toList ++
          furtherMembers layout rest))) := by
  rw [furtherMembers, toList_renderMembers_cons]

end Calculator.Json
