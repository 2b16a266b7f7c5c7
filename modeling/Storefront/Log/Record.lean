/-
Log records.

A record carries what was said and the extras that a caller attached.  As JSON it is one
object on one line: five fields of the record's own, then the extras that are looked for
most in a fixed order, then the other extras as they come.  Extras cannot speak for the
record: the names that records use are refused, and an extra that is named like one of
the five fields is left out.  An extra whose name starts with an underscore is private.

A record may have no line: its template and arguments may make no message, an extra may stand
where the record is asked for its message, its moment may have no place in the calendar, an
integer may have more digits than are written, or the id of its request may be of a kind that
JSON does not know.  What is written for such a record is nothing.
-/
import Storefront.Json.Writer
import Storefront.Log.Message
import Storefront.Log.Value
import Storefront.Timestamp

namespace Storefront.Log

/-! ### Levels -/

/-- The name of a level. -/
def levelName (level : Int) : String :=
  match level with
  | 0 => "NOTSET"
  | 10 => "DEBUG"
  | 20 => "INFO"
  | 30 => "WARNING"
  | 40 => "ERROR"
  | 50 => "CRITICAL"
  | n => "Level " ++ toString n

/-- Things that went as they should. -/
def info : Int := 20

/-- Things that somebody may want to look at. -/
def warning : Int := 30

/-- Things that went wrong. -/
def error : Int := 40

/-! ### Records -/

/-- An exception that a record reports. -/
structure Incident where
  kind : String
  text : RawText
  deriving DecidableEq, Repr

/-- An exception in one line: its kind, and its text unless that is empty. -/
def Incident.line (i : Incident) : RawText :=
  if i.text = [] then i.kind else RawText.ofString (i.kind ++ ": ") ++ i.text

/-- What was logged. -/
structure Record where
  logger : RawText
  level : Int
  template : RawText
  args : List Value
  extras : List (RawText × Value)
  created : Timestamp
  incident : Option Incident

/-- The names that records use themselves. -/
def ownNames : List RawText :=
  ["message", "asctime", "name", "msg", "args", "levelname", "levelno", "pathname", "filename",
   "module", "exc_info", "exc_text", "stack_info", "lineno", "funcName", "created", "msecs",
   "relativeCreated", "thread", "threadName", "processName", "process"].map RawText.ofString

/-- The first extra whose name a record uses itself. -/
def Record.clash? (r : Record) : Option RawText :=
  (r.extras.map Prod.fst).find? ownNames.contains

/-- What is said of an extra whose name a record uses itself. -/
def clashMessage (name : RawText) : String :=
  Text.quoted (RawText.ofString ("Attempt to overwrite " ++ Text.quoted name ++ " in LogRecord"))

/-- The message of a record. -/
def Record.message (r : Record) : Except TemplateError RawText :=
  Log.message r.template r.args

/-! ### As one object -/

/-- The names of the five fields of a record's own. -/
def headerNames : List RawText :=
  ["ts", "level", "logger", "message", "request_id"].map RawText.ofString

/-- The extras that come first, in this order, when they are not null. -/
def promoted : List String :=
  ["customer_id", "variant_id", "status", "checkout_session_id", "path", "method",
   "status_code", "duration_ms"]

/-- The five fields of the record's own. -/
def Record.header (r : Record) (time : String) (message : RawText) (requestId : Json) :
    Json.Members :=
  [("ts", .text time), ("level", .text (levelName r.level)), ("logger", .text r.logger),
   ("message", .text message), ("request_id", requestId)]

/-- An extra as it is written. -/
def written (v : Value) : Json := bounded v.plain

/-- The promoted extras of a record. -/
def Record.leading (r : Record) : Json.Members :=
  promoted.filterMap fun key =>
    match Keyed.get? (RawText.ofString key) r.extras with
    | none | some .null => none
    | some v => some (RawText.ofString key, written v)

/-- Whether the name of an extra starts with an underscore. -/
def isPrivate (name : RawText) : Bool :=
  name.head? == some (.char '_')

/-- The other extras: those that are neither named already nor private. -/
def Record.others (r : Record) (named : List RawText) : Json.Members :=
  (r.extras.filter fun e => !named.contains e.1 && !isPrivate e.1).map fun e =>
    (e.1, written e.2)

/-- Whether the keys inside the extras of a record have texts, as far as they are written. -/
def Record.keysSpelled (r : Record) : Bool :=
  r.extras.all fun e => headerNames.contains e.1 || isPrivate e.1 || e.2.keysSpelled

/-- The members of a record as one object. -/
def Record.payload (r : Record) (time : String) (message : RawText) (requestId : Json) :
    Json.Members :=
  let first := r.header time message requestId ++ r.leading
  let members := first ++ r.others (first.map Prod.fst)
  match r.incident with
  | none => members
  | some i => Keyed.put (RawText.ofString "exception") (.text i.line) members

/-! ### Lines -/

/-- How lines are laid out. -/
inductive Layout where
  | json
  | plain
  deriving DecidableEq, Repr

/-- Where the id of the request comes from. -/
inductive RequestId where
  /-- From the context of the record. -/
  | context (id : Option RawText)
  /-- From the extras of the record. -/
  | extras
  deriving DecidableEq, Repr

/-- What stands for the id of a request when there is none. -/
def noRequest : String := "-"

/-- The id of the request of a record, if it is known. -/
def RequestId.find (source : RequestId) (r : Record) : Option Value :=
  match source with
  | context none | context (some []) => some (.text noRequest)
  | context (some id) => some (.text id)
  | extras => Keyed.get? (RawText.ofString "request_id") r.extras

/-- The name under which a record is asked for its message.  It is not among the names that
records use, so an extra may have it. -/
def messageName : RawText := "getMessage"

/-- Why a record has no line. -/
inductive LineError where
  | template (e : TemplateError)
  /-- An extra is asked for the message, and no value of its kind gives one. -/
  | speechless (kind : String)
  | calendar (e : CalendarError)
  /-- Something that the JSON layout writes as it is cannot be written. -/
  | unwritable (e : Value.WriteError)
  /-- The plain layout needs the id of the request. -/
  | noRequestId
  deriving DecidableEq, Repr

/-- What is said of a record without a line. -/
def LineError.message : LineError → String
  | template e => e.message
  | speechless kind => "'" ++ kind ++ "' object is not callable"
  | calendar e => e.message
  | unwritable (.value kind) => "Object of type " ++ kind ++ " is not JSON serializable"
  | unwritable (.key kind) => "keys must be str, int, float, bool or None, not " ++ kind
  | unwritable .digits => Text.unspelledMessage
  | noRequestId => "Formatting field not found in record: 'request_id'"

/-- What a record answers when it is asked for its message. -/
def Record.spoken (r : Record) : Except LineError RawText :=
  match Keyed.get? messageName r.extras with
  | some v => .error (.speechless v.kind)
  | none => r.message.mapError .template

/-- The name of the level of a record.  A level that has no name is written in digits. -/
def Record.spokenLevel (r : Record) : Except LineError String :=
  if Text.isSpelled r.level then .ok (levelName r.level) else .error (.unwritable .digits)

/-- The line of a record as one object. -/
def Record.jsonLine (r : Record) (source : RequestId) : Except LineError RawText := do
  let _ ← r.spokenLevel
  let time ← r.created.isoText.mapError .calendar
  let message ← r.spoken
  if !r.keysSpelled then throw (.unwritable .digits)
  let requestId ← ((source.find r).getD (.text noRequest)).exact.mapError .unwritable
  let line := Json.object (r.payload time message requestId)
  if !line.isSpelled then throw (.unwritable .digits)
  return Json.write .line line

/-- The plain line of a record; an exception has a line of its own. -/
def Record.plainLine (r : Record) (source : RequestId) : Except LineError RawText := do
  let level ← r.spokenLevel
  let message ← r.spoken
  let time ← r.created.plainText.mapError .calendar
  let requestId ← (source.find r).elim (.error .noRequestId) .ok
  if !requestId.isSpelled then throw (.unwritable .digits)
  let line := RawText.ofString (time ++ " [" ++ level ++ "] ") ++ r.logger ++
    RawText.ofString " [" ++ requestId.shown ++ RawText.ofString "] " ++ message
  return match r.incident with
  | none => line
  | some i => line ++ (if line.getLast? = some (.char '\n') then [] else [.char '\n']) ++ i.line

/-- The line of a record in a layout. -/
def Record.line (r : Record) (layout : Layout) (source : RequestId) : Except LineError RawText :=
  match layout with
  | .json => r.jsonLine source
  | .plain => r.plainLine source

/-- What is written for a record: its line with a line feed, or nothing when it has none. -/
def Record.output (r : Record) (layout : Layout) (source : RequestId) : RawText :=
  match r.line layout source with
  | .ok line => line ++ [.char '\n']
  | .error _ => []

end Storefront.Log
