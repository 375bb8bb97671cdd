import Calculator.Journal.Logger

/-!
# The fields of a record

Every field of an event becomes an attribute of the event's record. Names that all records use
themselves are taken, so a field with such a name gets an underscore in front. This keeps the
record's own attributes as they are, but not all fields: a field that has the underscore already
meets the field that gets one, and then the later of the two is left. And a field may take the place
of the session, which is no attribute that all records have. These are the only losses.

## Main definitions

* `Record.IsOrdinary`: no attribute that all records have was replaced.
* `Record.Carries`: every field is there, under a name of its own, beside the session.

## Main results

* `fieldKey_eq_iff`: which fields meet under one name.
* `Logger.isOrdinary_record`: a field never replaces an attribute that all records have.
* `Logger.get?_fields_of_last`: the last field of a name is kept.
* `Logger.carries_iff`: **when nothing is lost**.
-/

namespace Calculator

/-! ### Names -/

section

variable {key key' target : String}

/-- A reserved name gets an underscore in front. -/
theorem fieldKey_of_mem (h : key ∈ reservedKeys) : fieldKey key = "_" ++ key := by
  rw [fieldKey, if_pos (List.contains_iff_mem.mpr h)]

/-- Any other name stays as it is. -/
theorem fieldKey_of_not_mem (h : key ∉ reservedKeys) : fieldKey key = key := by
  rw [fieldKey, if_neg (mt List.contains_iff_mem.mp h)]

/-- No reserved name starts with an underscore. -/
theorem underscore_not_mem (key : String) : "_" ++ key ∉ reservedKeys := by
  intro h
  have hnone : ∀ reserved ∈ reservedKeys, reserved.toList.head? ≠ some '_' := by decide
  exact hnone _ h (by simp)

/-- The name of a field is never reserved. -/
theorem fieldKey_not_mem (key : String) : fieldKey key ∉ reservedKeys := by
  by_cases h : key ∈ reservedKeys
  · rw [fieldKey_of_mem h]
    exact underscore_not_mem key
  · rwa [fieldKey_of_not_mem h]

/-- Two fields meet under one name if one of them has a reserved name, and the other has it with the
underscore. -/
theorem fieldKey_eq_iff :
    fieldKey key = fieldKey key' ↔
      key = key' ∨ key ∈ reservedKeys ∧ key' = "_" ++ key ∨
        key' ∈ reservedKeys ∧ key = "_" ++ key' := by
  by_cases h : key ∈ reservedKeys <;> by_cases h' : key' ∈ reservedKeys
  · have hne : key ≠ "_" ++ key' := fun heq => underscore_not_mem key' (heq ▸ h)
    have hne' : key' ≠ "_" ++ key := fun heq => underscore_not_mem key (heq ▸ h')
    simp [fieldKey_of_mem h, fieldKey_of_mem h', hne, hne']
  · have hne : key ≠ key' := fun heq => h' (heq ▸ h)
    rw [fieldKey_of_mem h, fieldKey_of_not_mem h']
    simp [h, h', hne, eq_comm]
  · have hne : key ≠ key' := fun heq => h (heq ▸ h')
    rw [fieldKey_of_not_mem h, fieldKey_of_mem h']
    simp [h, h', hne]
  · simp [fieldKey_of_not_mem h, fieldKey_of_not_mem h', h, h']

/-- A name without an underscore in front that is not reserved is that of one field only. -/
theorem fieldKey_eq_of_plain (hplain : target.toList.head? ≠ some '_') (h : fieldKey key = target) :
    key = target := by
  by_cases hkey : key ∈ reservedKeys
  · refine absurd ?_ hplain
    rw [← h, fieldKey_of_mem hkey]
    simp
  · rwa [fieldKey_of_not_mem hkey] at h

end

/-- The fields of an event under their names in the record. -/
def Event.namedFields (event : Event) : Fields :=
  event.fields.map fun (key, value) => (fieldKey key, value)

/-- Named fields are merged into what a record has already. -/
theorem extraFields_eq_merge (present : Fields) (event : Event) :
    extraFields present event.fields = Table.merge present event.namedFields := by
  rw [extraFields, Table.merge, Event.namedFields, List.foldl_map]

/-- The names of named fields. -/
theorem Event.keys_namedFields (event : Event) :
    Table.keys event.namedFields = (Table.keys event.fields).map fieldKey := by
  simp [namedFields, Table.keys]

/-! ### Records -/

namespace Record

variable {record : Record} {key : String}

/-- No attribute that all records have was replaced. -/
def IsOrdinary (record : Record) : Prop := ∀ key ∈ Table.keys record.extra, key ∉ reservedKeys

/-- A record carries fields and a session: every field is a structured field of its own, with its
own name or, if that is reserved, with an underscore in front; no two fields share a name; and the
session is that of the record. -/
structure Carries (record : Record) (fields : Fields) (session : String) : Prop where
  /-- Every field is there. -/
  each : ∀ key value, (key, value) ∈ fields → Table.get? record.fields (fieldKey key) = some value
  /-- No two fields are under one name. -/
  apart : ∀ key ∈ Table.keys fields, ∀ key' ∈ Table.keys fields,
    fieldKey key = fieldKey key' → key = key'
  /-- The session is kept. -/
  session_eq : record.get sessionKey = .str session

/-- The structured fields are the attributes besides, without the reserved ones and the session. -/
theorem get?_fields (record : Record) (key : String) :
    Table.get? record.fields key =
      if key ∉ reservedKeys ∧ key ≠ sessionKey then Table.get? record.extra key else none := by
  refine (Table.get?_filter (fun key => !reservedKeys.contains key && key ≠ sessionKey)
    record.extra key).trans ?_
  simp

/-- The session is that of no structured field. -/
theorem get?_fields_session (record : Record) : Table.get? record.fields sessionKey = none := by
  rw [get?_fields, if_neg fun hkey => hkey.2 rfl]

/-- The attributes besides come before those that all records have. -/
theorem get_eq_of_get? {value : Json} (hkeys : (Table.keys record.extra).Nodup)
    (h : Table.get? record.extra key = some value) : record.get key = value := by
  rw [get, attributes, Table.get?_merge hkeys, h]
  rfl

/-- An attribute that was not set besides is that of the record without anything besides. -/
theorem get_of_not_mem (h : key ∉ Table.keys record.extra) :
    record.get key = { record with extra := [] }.get key := by
  rw [get, get, attributes, attributes, Table.get?_merge_of_not_mem h]
  rfl

end Record

namespace Logger

variable (logger : Logger) (event : Event)

/-- The attributes besides are the session and then the named fields. -/
theorem extra_record :
    (logger.record event).extra =
      Table.merge [(sessionKey, .str logger.session)] event.namedFields :=
  extraFields_eq_merge ..

/-- No two attributes besides have one name. -/
theorem nodup_keys_extra : (Table.keys (logger.record event).extra).Nodup := by
  rw [extra_record]
  exact Table.nodup_keys_merge (by simp [Table.keys]) _

/-- An attribute besides is the session or has the name of a field. -/
theorem mem_keys_extra {key : String} (h : key ∈ Table.keys (logger.record event).extra) :
    key = sessionKey ∨ ∃ field ∈ Table.keys event.fields, fieldKey field = key := by
  by_cases hnamed : key ∈ Table.keys event.namedFields
  · rw [Event.keys_namedFields, List.mem_map] at hnamed
    exact Or.inr hnamed
  · rw [← Table.get?_isSome_iff, extra_record, Table.get?_merge_of_not_mem hnamed,
      Table.get?_isSome_iff] at h
    exact Or.inl (by simpa [Table.keys] using h)

/-- **A field never replaces an attribute that all records have.** -/
theorem isOrdinary_record : (logger.record event).IsOrdinary := by
  intro key hkey
  rcases mem_keys_extra logger event hkey with rfl | ⟨field, -, rfl⟩
  · decide
  · exact fieldKey_not_mem field

variable {event} {before after : Fields} {key : String} {value : Json}

/-- The last field of a name is what the record has under it. -/
theorem get?_extra_of_last (hsplit : event.fields = before ++ (key, value) :: after)
    (hlast : ∀ later ∈ Table.keys after, fieldKey later ≠ fieldKey key) :
    Table.get? (logger.record event).extra (fieldKey key) = some value := by
  have hnamed : event.namedFields = before.map (fun (key, value) => (fieldKey key, value)) ++
      (fieldKey key, value) :: after.map fun (key, value) => (fieldKey key, value) := by
    simp [Event.namedFields, hsplit]
  rw [extra_record]
  refine Table.get?_merge_of_last hnamed ?_ _
  rw [Table.keys, List.map_map, List.mem_map]
  rintro ⟨⟨later, laterValue⟩, hmem, heq⟩
  exact hlast later (List.mem_map.mpr ⟨_, hmem, rfl⟩) heq

/-- **The last field of a name is kept** as a structured field, unless it is the session. -/
theorem get?_fields_of_last (hsplit : event.fields = before ++ (key, value) :: after)
    (hlast : ∀ later ∈ Table.keys after, fieldKey later ≠ fieldKey key) (hkey : key ≠ sessionKey) :
    Table.get? (logger.record event).fields (fieldKey key) = some value := by
  have hname : fieldKey key ≠ sessionKey := mt (fieldKey_eq_of_plain (by decide)) hkey
  rw [Record.get?_fields, if_pos ⟨fieldKey_not_mem key, hname⟩]
  exact get?_extra_of_last logger hsplit hlast

/-- The session is kept unless a field takes its place. -/
theorem get?_session_of_not_mem (h : sessionKey ∉ Table.keys event.fields) :
    Table.get? (logger.record event).extra sessionKey = some (.str logger.session) := by
  have hnamed : sessionKey ∉ Table.keys event.namedFields := by
    rw [Event.keys_namedFields, List.mem_map]
    rintro ⟨field, hfield, heq⟩
    exact h (fieldKey_eq_of_plain (by decide) heq ▸ hfield)
  rw [extra_record, Table.get?_merge_of_not_mem hnamed]
  rfl

/-- **When nothing is lost**: no field is named like the session, and none is named like a reserved
one with its underscore. -/
theorem carries_iff (hkeys : (Table.keys event.fields).Nodup) :
    (logger.record event).Carries event.fields logger.session ↔
      sessionKey ∉ Table.keys event.fields ∧
        ∀ key ∈ reservedKeys, key ∈ Table.keys event.fields →
          "_" ++ key ∉ Table.keys event.fields := by
  constructor
  · intro h
    refine ⟨fun hsession => ?_, fun key hreserved hkey hunderscore => ?_⟩
    · -- the session is never a structured field
      obtain ⟨⟨_, value⟩, hmem, rfl⟩ := List.mem_map.mp hsession
      have hfield := h.each _ _ hmem
      rw [fieldKey_of_not_mem (by decide), Record.get?_fields_session] at hfield
      cases hfield
    · have hmeet : fieldKey key = fieldKey ("_" ++ key) :=
        fieldKey_eq_iff.mpr (Or.inr (Or.inl ⟨hreserved, rfl⟩))
      have heq := h.apart key hkey ("_" ++ key) hunderscore hmeet
      exact underscore_not_mem key (heq ▸ hreserved)
  · rintro ⟨hsession, hpairs⟩
    have hapart : ∀ key ∈ Table.keys event.fields, ∀ key' ∈ Table.keys event.fields,
        fieldKey key = fieldKey key' → key = key' := by
      intro key hkey key' hkey' hmeet
      rcases fieldKey_eq_iff.mp hmeet with heq | ⟨hreserved, rfl⟩ | ⟨hreserved, rfl⟩
      · exact heq
      · exact absurd hkey' (hpairs key hreserved hkey)
      · exact absurd hkey (hpairs key' hreserved hkey')
    refine ⟨fun key value hmem => ?_, hapart, ?_⟩
    · obtain ⟨before, after, hsplit, hfresh⟩ := Table.exists_split hkeys hmem
      have hfield : key ∈ Table.keys event.fields := List.mem_map.mpr ⟨_, hmem, rfl⟩
      refine get?_fields_of_last logger hsplit (fun later hlater hmeet => ?_) ?_
      · have hlaterField : later ∈ Table.keys event.fields := by
          rw [hsplit, Table.keys, List.map_append]
          exact List.mem_append_right _ (List.mem_cons_of_mem _ hlater)
        exact hfresh (hapart later hlaterField key hfield hmeet ▸ hlater)
      · rintro rfl
        exact hsession hfield
    · exact Record.get_eq_of_get? (nodup_keys_extra logger event)
        (get?_session_of_not_mem logger hsession)

end Logger

end Calculator
