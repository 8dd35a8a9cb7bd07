import FieldTemplates.Data.Table
import FieldTemplates.Files.Path
import FieldTemplates.Log.Entry
import FieldTemplates.Log.Message
import FieldTemplates.Text.Utf8

namespace FieldTemplates.Log

def rootName : String := "acf_generator"

-- Loggers live below the root; a name that starts like the root stays.
def loggerName (name : String) : String :=
  if rootName.toList.isPrefixOf name.toList then name else rootName ++ "." ++ name

-- Whether records of a logger reach the root.
def reachesRoot (logger : String) : Bool :=
  logger == rootName || (rootName ++ ".").toList.isPrefixOf logger.toList

structure Record where
  logger : String
  severity : Int
  message : String
  args : List Value

inductive Handler where
  | console (level : Int)
  | file (path : String)
deriving DecidableEq, Repr

def Handler.level : Handler → Int
  | .console level => level
  | .file _ => debugLevel

def levelNames : Table Int := [
  ("CRITICAL", 50), ("FATAL", 50), ("ERROR", 40), ("WARN", 30), ("WARNING", 30), ("INFO", 20),
  ("DEBUG", 10), ("NOTSET", 0)]

-- Setting up replaces what was set up before. An empty file name is none.
def handlers (level : Int) (file : Option String) : List Handler :=
  .console level :: match file with
    | none => []
    | some "" => []
    | some path => [.file path]

def Record.isLogged (r : Record) : Bool :=
  reachesRoot (loggerName r.logger) && debugLevel ≤ r.severity

def Record.text (r : Record) : Except Message.Error String := Message.text r.message r.args

-- A record that the console shows has to have a text.
def Record.failure? (console : Int) (r : Record) : Option Message.Error :=
  if r.isLogged && console ≤ r.severity then
    match r.text with
    | .ok _ => none
    | .error e => some e
  else none

-- The line of a record in a file. Records without a text, or with one that no file can hold, leave
-- no line.
def Record.line (time : String) (r : Record) : List UInt8 :=
  match r.text with
  | .ok text =>
    let line := s!"{time} - {loggerName r.logger} - {levelName r.severity} - {text}\n"
    (Text.Utf8.encode line.toList).toOption.getD []
  | .error _ => []

-- What the records add to a log file.
def lines (time : String) (rs : List Record) : List UInt8 :=
  (rs.filter Record.isLogged).flatMap (Record.line time)

-- Where a log file lies: at its path as the names alone tell it.
def place (path : String) : Files.Path := (Files.Path.ofText path).collapse

end FieldTemplates.Log
