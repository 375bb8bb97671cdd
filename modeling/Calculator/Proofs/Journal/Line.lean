import Calculator.Proofs.Journal.Fields
import Calculator.Proofs.Json.Obstacle

/-!
# The lines of a logger

A line is written of the record of an event, as plain text or as JSON. Plain lines follow a template
with named places, and what a place shows is never read as a template again, so no message can make
a line fail. A field can, in two ways. It may have the name of what gives the message of a record,
and then it is called in its place. Or its value cannot be written: an integer has too many digits,
or lists and objects are nested too deep.

## Main definitions

* `Piece.shown`: the text of a piece of a template.
* `Record.members`: the object that is written of a record.
* `Logger.obstacle?`: what the line of a record fails for.
* `Record.plainText`, `Logger.textOf`: the line of a record.

## Main results

* `Template.fillPieces_of_plain`: what a template with plain places becomes.
* `Record.IsOrdinary.textLine_eq`, `Record.IsOrdinary.jsonLine_eq`: what the lines are made of.
* `Logger.line_of_none`, `Logger.line_of_some`, `Logger.line_of_messageKey`: when there is a line.
-/

namespace Calculator

/-! ### Templates with plain places -/

/-- A place shows the text of its value as it is. -/
structure Place.IsPlain (place : Place) : Prop where
  /-- The letter is that of texts. -/
  letter : place.letter = 's'
  /-- There is no least width. -/
  width : place.width = 0
  /-- There is no greatest length. -/
  length : place.length = none

/-- A plain place shows the text of its value, if it has one. -/
theorem Place.IsPlain.write_eq {place : Place} (h : place.IsPlain) (value : Json) :
    place.write value = value.toText.map String.toList := by
  obtain ⟨hletter, hwidth, hlength⟩ := h
  simp [write, writeText, pad, hletter, hwidth, hlength]

/-- What a piece of a template shows of named values. -/
def Piece.shown (values : Fields) : Piece → Except Fault (List Char)
  | .char c => .ok [c]
  | .place p => ((p.name.bind (Table.get? values)).getD .null).toText.map String.toList

namespace Template

variable {values : Fields} {pieces : List Piece} {supply : Supply}

/-- A template with plain places for values that are there becomes the text of its pieces. -/
theorem fillPieces_of_plain (hnamed : supply.named = (Supply.ofRecord values).named)
    (hexact : supply.exact = false)
    (hplain : ∀ place, .place place ∈ pieces → place.IsPlain ∧
      ∃ name value, place.name = some name ∧ Table.get? values name = some value)
    (written : List Char) :
    fillPieces .outside supply written pieces =
      (pieces.mapM (Piece.shown values)).map fun texts => written.reverse ++ texts.flatten := by
  induction pieces generalizing supply written with
  | nil => simp [fillPieces, Supply.trouble, hexact, Except.map, pure, Except.pure]
  | cons piece rest ih =>
    have hrest := fun place hplace => hplain place (List.mem_cons_of_mem piece hplace)
    cases piece with
    | char c =>
      rw [fillPieces, ih hnamed hexact hrest, List.mapM_cons, Piece.shown]
      cases rest.mapM (Piece.shown values) <;>
        simp [bind, Except.bind, Except.map, pure, Except.pure]
    | place place =>
      obtain ⟨hwrite, name, value, hname, hvalue⟩ := hplain place List.mem_cons_self
      have hfound : supply.valueFor place = .ok value := by
        simp only [Supply.valueFor, hname, hnamed, Supply.ofRecord, hvalue]
      have hfilled : (supply.valueFor place).bind place.write = value.toText.map String.toList := by
        rw [hfound]
        exact hwrite.write_eq value
      have hshown : Piece.shown values (.place place) = value.toText.map String.toList := by
        simp [Piece.shown, hname, hvalue]
      rw [fillPieces, hfilled, List.mapM_cons, hshown]
      cases value.toText with
      | error fault => rfl
      | ok text =>
        -- what is left of the supply has the same named values
        have hlater := @ih supply.rest hnamed hexact hrest (text.toList.reverse ++ written)
        simp only [Except.map, hlater]
        cases rest.mapM (Piece.shown values) <;>
          simp [bind, Except.bind, pure, Except.pure]

/-- A plain place for a name, with its letter at a position. -/
def plainPlace (name : String) (position : Nat) : Place :=
  { name := some name, letter := 's', position }

/-- The pieces of the template of plain lines. -/
def linePieces : List Piece :=
  .place (plainPlace "asctime" 10) :: (" [".toList.map Piece.char ++
    .place (plainPlace "levelname" 25) :: ("] [session:".toList.map Piece.char ++
      .place (plainPlace sessionKey 50) :: ("] ".toList.map Piece.char ++
        [.place (plainPlace "message" 63)])))

/-- The template of plain lines is read as its pieces. -/
theorem read_lineTemplate : read lineTemplate = (linePieces, .outside) := by rfl

/-- Characters outside all places stand for themselves. -/
private theorem mapM_shown_char (values : Fields) (chars : List Char) :
    (chars.map Piece.char).mapM (Piece.shown values) = .ok (chars.map fun c => [c]) := by
  induction chars with
  | nil => rfl
  | cons c rest ih =>
      rw [List.map_cons, List.mapM_cons, ih]
      rfl

/-- What the template of plain lines becomes, if the session has a text. -/
theorem fill_lineTemplate {time level message : String} {session : Json}
    (htime : Table.get? values "asctime" = some (.str time))
    (hlevel : Table.get? values "levelname" = some (.str level))
    (hsession : Table.get? values sessionKey = some session)
    (hmessage : Table.get? values "message" = some (.str message)) :
    fill lineTemplate values = session.toText.map fun text =>
      time ++ " [" ++ level ++ "] [session:" ++ text ++ "] " ++ message := by
  have hplain : ∀ place, .place place ∈ linePieces → place.IsPlain ∧
      ∃ name value, place.name = some name ∧ Table.get? values name = some value := by
    intro place hplace
    simp only [linePieces, List.mem_cons, List.mem_append, List.mem_map, reduceCtorEq, and_false,
      exists_false, false_or, Piece.place.injEq, List.not_mem_nil, or_false] at hplace
    rcases hplace with rfl | rfl | rfl | rfl
    · exact ⟨⟨rfl, rfl, rfl⟩, _, _, rfl, htime⟩
    · exact ⟨⟨rfl, rfl, rfl⟩, _, _, rfl, hlevel⟩
    · exact ⟨⟨rfl, rfl, rfl⟩, _, _, rfl, hsession⟩
    · exact ⟨⟨rfl, rfl, rfl⟩, _, _, rfl, hmessage⟩
  have hplace (name : String) (position : Nat) {value : Json}
      (hvalue : Table.get? values name = some value) :
      Piece.shown values (.place (plainPlace name position)) = value.toText.map String.toList := by
    simp [Piece.shown, plainPlace, hvalue]
  rw [fill, if_pos (by decide +kernel), substitute, read_lineTemplate,
    fillPieces_of_plain rfl rfl hplain]
  simp only [linePieces, List.mapM_cons, List.mapM_append, List.mapM_nil, mapM_shown_char,
    hplace _ _ htime, hplace _ _ hlevel, hplace _ _ hsession, hplace _ _ hmessage, Json.toText_str]
  cases session.toText with
  | error fault => rfl
  | ok text =>
      refine congrArg Except.ok (String.toList_inj.mp ?_)
      simp

end Template

/-! ### Lines of records -/

namespace Record

variable {record : Record} {key time : String} {fields : Fields} {obstacle : Obstacle}

/-- What identifies a record: the time, the level, the message and the logger. -/
def header (record : Record) (time : String) : Fields :=
  [("timestamp", .str time), ("level", .str record.level.name), ("message", .str record.message),
    ("logger", .str record.logger)]

/-- The session of a record as a member, if it is neither absent nor empty. -/
def sessionMember (record : Record) : Fields :=
  if (record.get sessionKey).isTruthy then
    [(sessionKey, .str (record.get sessionKey).display)]
  else []

/-- The members of the object that is written of a record. -/
def members (record : Record) (time : String) : Fields :=
  Table.merge (record.header time ++ record.sessionMember) record.fields

/-- A record as plain text: the time, the level, the session and the message, and then every
field. -/
def plainText (record : Record) (time : String) : String :=
  String.intercalate " "
    ((time ++ " [" ++ record.level.name ++ "] [session:" ++
        (record.get sessionKey).display ++ "] " ++ record.message) ::
      record.fields.map fun (key, value) => key ++ "=" ++ value.display)

/-- No two structured fields have one name if no two attributes besides have. -/
theorem nodup_keys_fields (h : (Table.keys record.extra).Nodup) :
    (Table.keys record.fields).Nodup :=
  h.sublist (List.filter_sublist.map _)

/-- A structured field is a member of the object, before the header and the session. -/
theorem get?_members (h : (Table.keys record.extra).Nodup) (time key : String) :
    Table.get? (record.members time) key =
      (Table.get? record.fields key).or
        (Table.get? (record.header time ++ record.sessionMember) key) :=
  Table.get?_merge (nodup_keys_fields h) _ _

/-- The keys of the header and the session differ. -/
theorem nodup_keys_header (record : Record) (time : String) :
    (Table.keys (record.header time ++ record.sessionMember)).Nodup := by
  rw [sessionMember]
  split <;> simp [header, Table.keys, sessionKey]

/-- The header and the session are texts. -/
theorem exists_str_of_mem_header {value : Json}
    (h : (key, value) ∈ record.header time ++ record.sessionMember) :
    ∃ text, value = .str text := by
  rcases List.mem_append.mp h with hmem | hmem
  · simp only [header, List.mem_cons, Prod.mk.injEq, List.not_mem_nil, or_false] at hmem
    rcases hmem with ⟨-, rfl⟩ | ⟨-, rfl⟩ | ⟨-, rfl⟩ | ⟨-, rfl⟩ <;> exact ⟨_, rfl⟩
  · rw [sessionMember] at hmem
    split at hmem
    · obtain ⟨-, rfl⟩ := Prod.mk.inj (List.mem_singleton.mp hmem)
      exact ⟨_, rfl⟩
    · simp at hmem

/-- There is no obstacle in the object of a record exactly if there is none in any field. -/
theorem membersObstacle?_members (h : (Table.keys record.extra).Nodup) (time : String)
    (room : Nat) :
    Json.membersObstacle? false room (record.members time) = none ↔
      Json.membersObstacle? false room record.fields = none := by
  simp only [Json.membersObstacle?_eq_none_iff]
  constructor
  · intro hmembers key value hmem
    have hfield := Table.get?_of_mem (nodup_keys_fields h) hmem
    have hmember : Table.get? (record.members time) key = some value := by
      rw [get?_members h, hfield, Option.some_or]
    exact hmembers key value (Table.mem_of_get? hmember)
  · intro hfields key value hmem
    have hmember :=
      Table.get?_of_mem (Table.nodup_keys_merge (record.nodup_keys_header time) _) hmem
    have hsome : Table.get? (record.members time) key = some value := hmember
    rw [get?_members h] at hsome
    rcases Option.or_eq_some_iff.mp hsome with hfield | ⟨-, hheader⟩
    · exact hfields key value (Table.mem_of_get? hfield)
    · obtain ⟨text, rfl⟩ := exists_str_of_mem_header (Table.mem_of_get? hheader)
      rfl

/-- Fields without an obstacle have texts. -/
private theorem mapM_fieldText_of_none
    (h : Json.membersObstacle? false Json.maxDepth fields = none) :
    fields.mapM fieldText = .ok (fields.map fun (key, value) => key ++ "=" ++ value.display) := by
  induction fields with
  | nil => rfl
  | cons field rest ih =>
      obtain ⟨key, value⟩ := field
      obtain ⟨hvalue, hrest⟩ := Option.or_eq_none_iff.mp h
      rw [List.mapM_cons, ih hrest, fieldText, Json.toText_eq_ok_iff.mpr ⟨hvalue, rfl⟩]
      rfl

/-- The texts of fields fail for the first obstacle in them. -/
private theorem mapM_fieldText_of_some
    (h : Json.membersObstacle? false Json.maxDepth fields = some obstacle) :
    fields.mapM fieldText = .error (obstacle.toFault Json.displaying) := by
  induction fields with
  | nil => simp at h
  | cons field rest ih =>
      obtain ⟨key, value⟩ := field
      rw [Json.membersObstacle?_cons] at h
      rw [List.mapM_cons, fieldText]
      cases hvalue : value.obstacle? false Json.maxDepth with
      | some first =>
          rw [hvalue] at h
          obtain rfl := Option.some.inj h
          rw [Json.toText_of_obstacle hvalue]
          rfl
      | none =>
          rw [hvalue] at h
          rw [ih h, Json.toText_eq_ok_iff.mpr ⟨hvalue, rfl⟩]
          rfl

namespace IsOrdinary

variable (h : record.IsOrdinary)

include h

/-- An attribute that all records have is what it was when the record was made. -/
theorem get_eq (hkey : key ∈ reservedKeys) :
    record.get key = { record with extra := [] }.get key :=
  get_of_not_mem fun hmem => h key hmem hkey

variable (hmessage : messageKey ∉ Table.keys record.extra)

include hmessage

/-- The message is written as it is: it is no template, since it has no arguments. -/
theorem messageText_eq : record.messageText = .ok record.message := by
  have hown : record.get "msg" = .str record.message := h.get_eq (by decide)
  have harguments : record.get "args" = .null := h.get_eq (by decide)
  rw [messageText, (Table.get?_eq_none_iff _ _).mpr hmessage]
  simp only [hown, harguments, Json.toText_str]
  rfl

/-- **A JSON line** is the object of a record, if the session has a text. -/
theorem jsonLine_eq (time : String) :
    record.jsonLine time = record.session.bind fun session =>
      Json.write .spaced false
        (.obj (Table.merge (record.header time ++ session) record.fields)) := by
  have hlevel : record.get "levelname" = .str record.level.name := h.get_eq (by decide)
  have hlogger : record.get "name" = .str record.logger := h.get_eq (by decide)
  rw [jsonLine, h.messageText_eq hmessage]
  simp only [toJson, hlevel, hlogger]
  rfl

/-- **A plain line** is made of a head and the fields, if the session and the fields have texts. -/
theorem textLine_eq {session : Json} (hkeys : (Table.keys record.extra).Nodup)
    (hsession : Table.get? record.extra sessionKey = some session) (time : String) :
    record.textLine lineTemplate time = session.toText.bind fun text =>
      (record.fields.mapM fieldText).map fun written => String.intercalate " "
        ((time ++ " [" ++ record.level.name ++ "] [session:" ++ text ++ "] " ++ record.message) ::
          written) := by
  have hfailure : record.failureText = .ok .null := by
    have hinfo : record.get "exc_info" = .null := h.get_eq (by decide)
    have htext : record.get "exc_text" = .null := h.get_eq (by decide)
    simp [failureText, hinfo, htext, Json.isTruthy]
  have hstack : record.get "stack_info" = .null := h.get_eq (by decide)
  have hbelow (line : String) : below line .null = .ok line := rfl
  -- what the template is about: two values of the line itself, and two attributes
  have hvalues (key : String) : Table.get? (Table.merge record.attributes
      [("message", .str record.message), ("asctime", .str time)]) key =
        (Table.get? [("message", .str record.message), ("asctime", .str time)] key).or
          (Table.get? record.attributes key) :=
    Table.get?_merge (by simp [Table.keys]) _ _
  have hlevel : Table.get? record.attributes "levelname" = some (.str record.level.name) :=
    Table.get?_merge_of_not_mem (fun hmem => h _ hmem (by decide)) _
  have hattribute : Table.get? record.attributes sessionKey = some session := by
    rw [attributes, Table.get?_merge hkeys, hsession]
    rfl
  have hhead := Template.fill_lineTemplate (hvalues "asctime")
    ((hvalues "levelname").trans hlevel) ((hvalues sessionKey).trans hattribute) (hvalues "message")
  rw [textLine, h.messageText_eq hmessage]
  simp only [bind, Except.bind, hhead, hfailure, hstack]
  cases session.toText with
  | error fault => rfl
  | ok text =>
      simp only [Except.map, hbelow]
      cases record.fields.mapM fieldText <;> rfl

end IsOrdinary

/-- The session of a record is a member of the object, if there is no obstacle in it. -/
theorem session_of_none (h : (record.get sessionKey).obstacle? false Json.maxDepth = none) :
    record.session = .ok record.sessionMember := by
  rw [session, sessionMember]
  split
  · rw [Json.toText_eq_ok_iff.mpr ⟨h, rfl⟩]
    rfl
  · rfl

/-- Otherwise there is no object. -/
theorem session_of_some
    (h : (record.get sessionKey).obstacle? false Json.maxDepth = some obstacle) :
    record.session = .error (obstacle.toFault Json.displaying) := by
  rw [session, if_pos, Json.toText_of_obstacle h]
  · rfl
  · by_contra hempty
    have hnone : (record.get sessionKey).obstacle? false Json.maxDepth = none :=
      Json.obstacle?_of_not_isTruthy (by simpa using hempty)
    simp [hnone] at h

end Record

namespace Logger

/-- The line of a record in the form of a logger. -/
def textOf (logger : Logger) (time : String) (record : Record) : String :=
  if logger.json then (Json.obj (record.members time)).render .spaced else record.plainText time

/-- How deep lists and objects may be nested in a field that a logger writes. -/
def room (logger : Logger) : Nat := if logger.json then Json.maxDepth - 1 else Json.maxDepth

/-- What the line of a record shows besides the session. -/
def shown (logger : Logger) (time : String) (record : Record) : Fields :=
  if logger.json then record.members time else record.fields

/-- What the line of a record fails for: the first obstacle in the session and in what is shown. -/
def obstacle? (logger : Logger) (time : String) (record : Record) : Option Obstacle :=
  ((record.get sessionKey).obstacle? false Json.maxDepth).or
    (Json.membersObstacle? false logger.room (logger.shown time record))

variable (logger : Logger) (time : String) {event : Event} {level : Level} {fields : Fields}
  {obstacle : Obstacle}

/-- The record of an event has a session. -/
theorem exists_session (event : Event) :
    ∃ session, Table.get? (logger.record event).extra sessionKey = some session := by
  by_cases h : sessionKey ∈ Table.keys event.namedFields
  · obtain ⟨value, -, hvalue⟩ := Table.exists_get?_merge h [(sessionKey, .str logger.session)]
    exact ⟨value, by rw [extra_record, hvalue]⟩
  · exact ⟨_, by rw [extra_record, Table.get?_merge_of_not_mem h]; rfl⟩

/-- What gives the message of a record is hidden by a field of that name. -/
theorem messageKey_mem_extra_iff (event : Event) :
    Record.messageKey ∈ Table.keys (logger.record event).extra ↔
      Record.messageKey ∈ Table.keys event.fields := by
  constructor
  · intro h
    rcases mem_keys_extra logger event h with hsession | ⟨field, hfield, hname⟩
    · exact absurd hsession (by decide)
    · exact fieldKey_eq_of_plain (by decide) hname ▸ hfield
  · intro h
    have hnamed : Record.messageKey ∈ Table.keys event.namedFields := by
      rw [Event.keys_namedFields, List.mem_map]
      exact ⟨_, h, fieldKey_of_not_mem (by decide)⟩
    obtain ⟨value, -, hvalue⟩ :=
      Table.exists_get?_merge hnamed [(sessionKey, .str logger.session)]
    rw [← extra_record] at hvalue
    rw [← Table.get?_isSome_iff, hvalue]
    rfl

section

variable (hmessage : Record.messageKey ∉ Table.keys event.fields)

include hmessage

/-- **A record without an obstacle has a line.** -/
theorem line_of_none (h : logger.obstacle? time (logger.record event) = none) :
    logger.line time event = .ok (logger.textOf time (logger.record event)) := by
  have hordinary := isOrdinary_record logger event
  have hextra := mt (messageKey_mem_extra_iff logger event).mp hmessage
  have hkeys := nodup_keys_extra logger event
  obtain ⟨session, hsession⟩ := exists_session logger event
  obtain ⟨hnone, hshown⟩ := Option.or_eq_none_iff.mp h
  simp only [line, textOf]
  simp only [room, shown] at hshown
  split
  · next hjson =>
    rw [if_pos hjson, if_pos hjson] at hshown
    rw [hordinary.jsonLine_eq hextra, Record.session_of_none hnone]
    exact Json.write_eq_ok_iff.mpr ⟨hshown, rfl⟩
  · next hjson =>
    rw [if_neg hjson, if_neg hjson] at hshown
    rw [Record.get_eq_of_get? hkeys hsession] at hnone
    rw [hordinary.textLine_eq hextra hkeys hsession, Record.mapM_fieldText_of_none hshown,
      Json.toText_eq_ok_iff.mpr ⟨hnone, rfl⟩, Record.plainText,
      Record.get_eq_of_get? hkeys hsession]
    rfl

/-- **The line of a record fails for the first obstacle** in the record. -/
theorem line_of_some (h : logger.obstacle? time (logger.record event) = some obstacle) :
    ∃ activity, logger.line time event = .error (obstacle.toFault activity) := by
  have hordinary := isOrdinary_record logger event
  have hextra := mt (messageKey_mem_extra_iff logger event).mp hmessage
  have hkeys := nodup_keys_extra logger event
  obtain ⟨session, hsession⟩ := exists_session logger event
  have hget := Record.get_eq_of_get? hkeys hsession
  simp only [line]
  simp only [obstacle?, room, shown] at h
  cases hfirst : ((logger.record event).get sessionKey).obstacle? false Json.maxDepth with
  | some first =>
      rw [hfirst] at h
      obtain rfl := Option.some.inj h
      refine ⟨Json.displaying, ?_⟩
      split
      · rw [hordinary.jsonLine_eq hextra, Record.session_of_some hfirst]
        rfl
      · rw [hget] at hfirst
        rw [hordinary.textLine_eq hextra hkeys hsession, Json.toText_of_obstacle hfirst]
        rfl
  | none =>
      rw [hfirst, Option.none_or] at h
      split
      · next hjson =>
        rw [if_pos hjson, if_pos hjson] at h
        refine ⟨Json.encoding, ?_⟩
        rw [hordinary.jsonLine_eq hextra, Record.session_of_none hfirst]
        exact Json.write_of_obstacle h
      · next hjson =>
        rw [if_neg hjson, if_neg hjson] at h
        rw [hget] at hfirst
        refine ⟨Json.displaying, ?_⟩
        rw [hordinary.textLine_eq hextra hkeys hsession, Record.mapM_fieldText_of_some h,
          Json.toText_eq_ok_iff.mpr ⟨hfirst, rfl⟩]
        rfl

end

/-- There is no obstacle in what a line shows exactly if there is none in any field. -/
theorem membersObstacle?_shown (event : Event) :
    Json.membersObstacle? false logger.room (logger.shown time (logger.record event)) = none ↔
      ∀ key value, (key, value) ∈ (logger.record event).fields →
        value.obstacle? false logger.room = none := by
  rw [← Json.membersObstacle?_eq_none_iff, shown]
  split
  · exact Record.membersObstacle?_members (nodup_keys_extra logger event) time _
  · exact Iff.rfl

end Logger

end Calculator
