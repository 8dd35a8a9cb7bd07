
namespace FieldTemplates.Log

structure Entry where
  severity : Int
  text : String
deriving DecidableEq, Repr

def debugLevel : Int := 10
def warningLevel : Int := 30
def errorLevel : Int := 40

def warning (text : String) : Entry := ⟨warningLevel, text⟩

def error (text : String) : Entry := ⟨errorLevel, text⟩

-- Severities between the named ones are shown by their number.
def levelName (severity : Int) : String :=
  if severity = 0 then "NOTSET"
  else if severity = 10 then "DEBUG"
  else if severity = 20 then "INFO"
  else if severity = 30 then "WARNING"
  else if severity = 40 then "ERROR"
  else if severity = 50 then "CRITICAL"
  else s!"Level {severity}"

end FieldTemplates.Log
