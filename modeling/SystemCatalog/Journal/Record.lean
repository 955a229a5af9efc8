import SystemCatalog.Journal.Level

/-!
# Log records

A record has a level and a message under a logger's name.  The record of a timed block also tells
which statement ran in it and whether the block failed.
-/

namespace SystemCatalog.Journal

/-- What the record of a timed block tells besides its message. -/
structure Timing where
  sql : Option String
  parameters : Datum
  failed : Bool

structure Record where
  logger : String
  level : Level
  message : String
  timing : Option Timing := none

def loggerName (name : String) : String := "cratemeta." ++ name

namespace Record

/-- The level of a timed block's record.  Blocks take no time, so that only a threshold that is not
positive makes one slow. -/
def timingLevel (threshold : Int) : Level :=
  if threshold ≤ 0 then Level.warning else Level.debug

def timed (logger name : String) (threshold : Int) (timing : Timing) : Record where
  logger := loggerName logger
  level := timingLevel threshold
  message := name ++ " took"
  timing := some timing

end Record

end SystemCatalog.Journal
