import Overplus.Library.Table
import Overplus.Library.Text
import Overplus.Library.Word

/-!
# Log files (`Shared/LogFile.cpp`)

A `LogFile` writes records to a file named after the local date and rolls over to the next file
when it has written enough or the day has changed. The number of bytes written is counted for each
open handle, from zero, while a file that exists already is opened at its end. The clock is read by
the check of the day and again for the name of the file, so both readings are arguments, and what
`localtime_r` makes of a time is a parameter. Files are opened and written without an error, and a
record is in its file once it is written.

A log that starts removes the files of its name whose date is too long ago. It reads the date back
from the name; what `mktime` makes of a date is a parameter. The name of a log has no slash, as its
constructor asserts, so the directory it cleans up is the one it writes to.
-/
namespace Overplus

/-- The date in a `struct tm`. -/
structure Tm where
  /-- Year, in full. -/
  year : Nat
  /-- Month, from one. -/
  mon : Nat
  /-- Day of the month. -/
  mday : Nat
deriving DecidableEq, Repr

/-- `strftime` with `".%Y%m%d"`. -/
def Tm.format (tm : Tm) : Bytes :=
  [46] ++ decimal tm.year ++ [decimalDigit (tm.mon / 10), decimalDigit (tm.mon % 10),
    decimalDigit (tm.mday / 10), decimalDigit (tm.mday % 10)]

/-- The files of the directory with what they hold. -/
abbrev Disk := List (Bytes × Bytes)

namespace Disk

/-- `fopen` with mode `"a"`: a file that is missing is made, one that exists keeps its bytes. -/
def openFile (disk : Disk) (filename : Bytes) : Disk :=
  match disk.lookup filename with
  | some _ => disk
  | none => (filename, []) :: disk

/-- `fwrite` to a file opened for appending. -/
def write (disk : Disk) (filename data : Bytes) : Disk :=
  (filename, (disk.lookup filename).getD [] ++ data) :: disk.filter fun file => file.1 ≠ filename

end Disk

/-- `AppendFile`. -/
structure AppendFile where
  /-- File behind `fp_`. -/
  filename : Bytes
  /-- `writtenBytes_`. -/
  writtenBytes : Nat := 0
deriving DecidableEq, Repr

/-- `LogFile`; the file is absent before the first roll. -/
structure LogFile where
  /-- `basename_`. -/
  basename : Bytes
  /-- `rollSize_`. -/
  rollSize : Int
  /-- `flushInterval_`. -/
  flushInterval : Int := 3
  /-- `checkEveryN_`. -/
  checkEveryN : Int := 1024
  /-- `count_`. -/
  count : Int := 0
  /-- `startOfPeriod_`. -/
  startOfPeriod : Int := 0
  /-- `lastRoll_`. -/
  lastRoll : Int := 0
  /-- `lastFlush_`. -/
  lastFlush : Int := 0
  /-- `file_`. -/
  file : Option AppendFile := none
deriving DecidableEq, Repr

/-- A log and the directory it writes to. -/
structure Logging where
  /-- The log. -/
  log : LogFile
  /-- The directory. -/
  disk : Disk := []
  /-- An append has dereferenced a null `file_`. -/
  crashed : Bool := false
deriving DecidableEq, Repr

/-- A call of `append`: the record, and what the clock says to the check of the day and to
`getLogFileName`, if they read it. -/
structure LogEvent where
  /-- The record. -/
  buf : Bytes
  /-- `time` in `append_unlocked`. -/
  checked : Int
  /-- `time` in `getLogFileName`. -/
  rolled : Int
deriving DecidableEq, Repr

namespace LogFile

/-- `kRollPerSeconds_`. -/
def rollPerSeconds : Int := 60 * 60 * 24

/-- The day a time is in, as the second it starts. -/
def startOfDay (now : Int) : Int := now.tdiv rollPerSeconds * rollPerSeconds

/-- `getLogFileName` at a time. -/
def getLogFileName (localtime : Int → Tm) (basename : Bytes) (now : Int) : Bytes :=
  basename ++ (localtime now).format ++ [46, 108, 111, 103]

/-- The text `.log`. -/
def logSuffix : Bytes := [46, 108, 111, 103]

/-- What `find` returns for a position that may be missing, `npos` for none. -/
def findResult (found : Option Nat) : Nat := found.getD (sizeModulus - 1)

/-- `parseLogDate`, with `mktime` of the fields `tm_year`, `tm_mon` and `tm_mday`. -/
def parseLogDate (mktime : Int → Int → Int → Int) (filename basename : Bytes) : Int :=
  let front := basename ++ [46]
  if findResult (find front filename) ≠ 0 ∨
      findResult (find logSuffix filename) ≠ sizeSub filename.length logSuffix.length then -1
  else
    let count := sizeSub (sizeSub filename.length front.length) logSuffix.length
    let dateStr := (filename.drop front.length).take count
    if dateStr.length ≠ 8 then -1
    else
      let fields := (scanInt 4 dateStr).bind fun year => (scanInt 2 year.2).bind fun mon =>
        (scanInt 2 mon.2).map fun mday => (year.1, mon.1, mday.1)
      match fields with
      | none => -1
      | some (year, mon, mday) => mktime (year - 1900) (mon - 1) mday

end LogFile

namespace Logging

open LogFile

/-- `LogFile::rollFile`, without its result, which no caller reads. The name is computed at the
time the clock then shows; within the second of the last roll nothing is opened. -/
def rollFile (localtime : Int → Tm) (logging : Logging) (now : Int) : Logging :=
  let filename := getLogFileName localtime logging.log.basename now
  if logging.log.lastRoll < now then
    { logging with
      log := { logging.log with
        lastRoll := now
        lastFlush := now
        startOfPeriod := startOfDay now
        file := some { filename } }
      disk := logging.disk.openFile filename }
  else logging

/-- `AppendFile::append` on the current file. -/
def appendFile (logging : Logging) (file : AppendFile) (data : Bytes) : Logging :=
  { logging with
    log := { logging.log with
      file := some { file with writtenBytes := file.writtenBytes + data.length } }
    disk := logging.disk.write file.filename data }

/-- The check of the day at the end of `append_unlocked`, every so many records. Flushing changes
no file. -/
def checkPeriod (localtime : Int → Tm) (logging : Logging) (checked rolled : Int) : Logging :=
  let log := { logging.log with count := logging.log.count + 1 }
  if log.checkEveryN ≤ log.count then
    let log := { log with count := 0 }
    if startOfDay checked ≠ log.startOfPeriod then
      { logging with log }.rollFile localtime rolled
    else if log.flushInterval < checked - log.lastFlush then
      { logging with log := { log with lastFlush := checked } }
    else { logging with log }
  else { logging with log }

/-- `LogFile::append_unlocked`. -/
def appendUnlocked (localtime : Int → Tm) (logging : Logging) (event : LogEvent) : Logging :=
  match logging.log.file with
  | none => { logging with crashed := true }
  | some file =>
    let logging := logging.appendFile file event.buf
    if logging.log.rollSize < file.writtenBytes + event.buf.length then
      logging.rollFile localtime event.rolled
    else logging.checkPeriod localtime event.checked event.rolled

/-- The constructor, in a directory without log files. -/
def create (localtime : Int → Tm) (basename : Bytes) (rollSize flushInterval checkEveryN : Int)
    (now : Int) : Logging :=
  { log := { basename, rollSize, flushInterval, checkEveryN } : Logging }.rollFile localtime now

/-- A call of `append`, which holds the lock until it returns. -/
def step (localtime : Int → Tm) (logging : Logging) (event : LogEvent) : Option Logging :=
  if logging.crashed then none else some (logging.appendUnlocked localtime event)

/-- `cleanupOldLogs`. The quotient of the seconds by those of a day is more than the days to keep
if the seconds are more than those of these days; no rounding of the quotient changes that. -/
def cleanupOldLogs (mktime : Int → Int → Int → Int) (maxKeepDays : Int) (logging : Logging)
    (now : Int) : Logging :=
  if maxKeepDays ≤ 0 then logging
  else
    { logging with disk := logging.disk.filter fun file =>
        let logDate := parseLogDate mktime file.1 logging.log.basename
        !(decide (0 ≤ logDate) && decide (maxKeepDays * rollPerSeconds < now - logDate)) }

/-- The process starts again: the constructor, in the directory the last process left. The clock
is read for the cleanup and for the name of the file. -/
def restart (localtime : Int → Tm) (mktime : Int → Int → Int → Int) (maxKeepDays : Int)
    (logging : Logging) (cleaned rolled : Int) : Logging :=
  let log : LogFile :=
    { basename := logging.log.basename
      rollSize := logging.log.rollSize
      flushInterval := logging.log.flushInterval
      checkEveryN := logging.log.checkEveryN }
  ({ log, disk := logging.disk : Logging }.cleanupOldLogs mktime maxKeepDays cleaned).rollFile
    localtime rolled

/-- What can happen to the log files of a program. -/
inductive LifeEvent where
  /-- A record is appended. -/
  | append (event : LogEvent)
  /-- The process starts again. -/
  | restart (cleaned rolled : Int)
deriving DecidableEq, Repr

/-- One event in the life of log files. -/
def lifeStep (localtime : Int → Tm) (mktime : Int → Int → Int → Int) (maxKeepDays : Int)
    (logging : Logging) : LifeEvent → Option Logging
  | .append event => logging.step localtime event
  | .restart cleaned rolled =>
    some (logging.restart localtime mktime maxKeepDays cleaned rolled)

end Logging

end Overplus
