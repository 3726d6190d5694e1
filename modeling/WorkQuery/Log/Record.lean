/-
This file writes log records as lines of JSON: the word for the level, the logger, and the message
with its arguments.
-/

import WorkQuery.Json.Writer
import WorkQuery.Log.Message

namespace WorkQuery.Log

open Json Number

/-- A log record. -/
structure Record where
  logger : String
  level : Int
  message : String
  arguments : List Value

/-- The word for a level. -/
def levelName : Int → String
  | 0 => "NOTSET"
  | 10 => "DEBUG"
  | 20 => "INFO"
  | 30 => "WARNING"
  | 40 => "ERROR"
  | 50 => "CRITICAL"
  | level => "Level " ++ integerText level

/-- A record as a line of JSON. -/
def Record.line (record : Record) : Except FormatFault String := do
  let message ← fill record.message record.arguments
  return write (.object [("level", .text (levelName record.level)),
    ("logger", .text record.logger), ("message", .text message)])

end WorkQuery.Log
