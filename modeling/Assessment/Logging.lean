import Assessment.Text.Surrogate
import Assessment.Text.UpperCase
import Assessment.Time.Instant
import Assessment.Value.Display

/-!
# The log

Records of the program's own parts are written, one line each, when they are important enough.
-/

namespace Assessment.Logging

open Assessment.Time

abbrev Level := Int

def levels : List (String × Level) :=
  [("DEBUG", 10), ("INFO", 20), ("WARNING", 30), ("ERROR", 40), ("CRITICAL", 50)]

/-- Further names of levels, which settings may use. -/
def otherNames : List (String × Level) := [("WARN", 30), ("FATAL", 50)]

/-- The level that a setting names, in any case; any other text stands for `INFO`. Without a threshold
of its own the log has that of its surroundings, `WARNING`. Two names of the log's own parts are no
levels. -/
def threshold (setting : Value) : Except Defect Level :=
  let name := Text.upper setting.display
  if name = "NOTSET" then .ok 30
  else if name = "BASIC_FORMAT" then .error .unreadable
  else if name = "_STYLES" then .error .wrongKind
  else .ok (((levels ++ otherNames).find? (·.1 == name)).map (·.2) |>.getD 20)

/-- The name of a level; one without a name shows its number. -/
def levelName (level : Level) : String :=
  ((levels.find? (·.2 == level)).map (·.1)).getD ("Level " ++ toString level)

/-- What is to be logged. -/
structure Record where
  level : Level
  logger : String
  message : String
  deriving DecidableEq, Repr

inductive Layout where
  | plain
  | json
  deriving DecidableEq, Repr

/-- Date and time of day to the second. -/
def timeText (t : Instant) : String :=
  String.ofList (Timestamp.charsWith ' ' ⟨t.micros / Duration.perSecond * Duration.perSecond, none⟩)

/-- The line of a record. The message is written as it is, in either layout. -/
def line (layout : Layout) (now : Instant) (r : Record) : String :=
  match layout with
  | .plain =>
    timeText now ++ " [" ++ levelName r.level ++ "] " ++ r.logger ++ ": " ++ r.message ++ "\n"
  | .json =>
    "\x7b\"time\": \"" ++ timeText now ++ "\", \"level\": \"" ++ levelName r.level ++
      "\", \"logger\": \"" ++ r.logger ++ "\", \"message\": \"" ++ r.message ++ "\"\x7d\n"

/-- Does a record come from the program, or from a part of it? -/
def isOwn (program : String) (r : Record) : Bool :=
  r.logger == program || (program ++ ".").toList.isPrefixOf r.logger.toList

/-- The lines of the records that are written. -/
def lines (program : String) (least : Level) (layout : Layout) (now : Instant)
    (records : List Record) : List String :=
  (records.filter fun r => isOwn program r && least ≤ r.level).map (line layout now)

/-- What some lines are in a file, which takes those that have an encoding. -/
def filed (ls : List String) : String := String.join (ls.filter Text.hasEncoding)

end Assessment.Logging
