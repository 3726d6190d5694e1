/-
This file holds the settings of the service's log. The levels and the form of the lines come from
three variables of the environment; libraries that talk too much are kept quiet, and the decisions
that are made while queries are turned into conditions have a level of their own.
-/

import WorkQuery.Json.Value
import WorkQuery.Text.Blank
import WorkQuery.Text.Capital

namespace WorkQuery.Log

open Json Text

/-- The variables that the log is set up by. -/
structure Environment where
  level : Option String
  queryLevel : Option String
  json : Option String

/-- The words that switch something on. -/
def onWords : List String := ["1", "true", "yes", "y", "on"]

/-- Whether a variable switches something on. -/
def isOn (setting : Option String) : Bool :=
  setting.any fun word => onWords.contains (keyword word)

/-- How lines are written: as JSON, or with level, time, origin and message. -/
def formatter (json : Bool) : Value :=
  if json then .object [("()", .text "JsonConsole")]
  else
    .object [("format", .text "%(levelname)s %(asctime)s %(name)s: %(message)s"),
      ("class", .text "logging.Formatter")]

/-- The entry of a logger with a level. -/
def logger (name level : String) : String × Value :=
  (name, .object [("level", .text level)])

/-- The entry of a logger that shows warnings only and keeps them to itself. -/
def quietLogger (name : String) : String × Value :=
  (name, .object [("level", .text "WARNING"), ("propagate", .bool false)])

/-- The settings of the log. -/
def settings (environment : Environment) : Value :=
  let level := capitals (environment.level.getD "INFO")
  let queryLevel := capitals (environment.queryLevel.getD level)
  .object [
    ("version", .int 1),
    ("disable_existing_loggers", .bool false),
    ("formatters", .object [("default", formatter (isOn environment.json))]),
    ("handlers", .object [("console", .object [("class", .text "logging.StreamHandler"),
      ("formatter", .text "default"), ("level", .text "DEBUG")])]),
    ("root", .object [("handlers", .texts ["console"]), ("level", .text level)]),
    ("loggers", .object [logger "wpquery.crud" queryLevel, quietLogger "httpx",
      quietLogger "httpcore", logger "uvicorn" level, logger "uvicorn.error" level,
      logger "uvicorn.access" level, logger "sqlalchemy.engine" "WARNING"])]

end WorkQuery.Log
