import Overplus.Library.Run
import Overplus.Shared.LogFile

/-!
# The size of log files

A log rolls over when it has written more than its limit. But the name of the next file has only
the date in it, so on the same day the same file is opened again, at its end, and the count of
bytes written starts anew: on one day a file grows without a bound. The limit holds for logs that
open every file under a new name.
-/
namespace Overplus.Verif.LogRoll

open Logging LogFile

/-- No file holds more than the limit of the log and one record. -/
def Bounded (rollSize : Int) (record : Nat) (disk : Disk) : Prop :=
  ∀ file ∈ disk, (file.2.length : Int) ≤ rollSize + record

instance (rollSize : Int) (record : Nat) (disk : Disk) : Decidable (Bounded rollSize record disk) :=
  inferInstanceAs (Decidable (∀ file ∈ disk, _))

/-- The record takes the current file over the limit. -/
def exceeds (logging : Logging) (event : LogEvent) : Bool :=
  logging.log.file.any fun file => logging.log.rollSize < file.writtenBytes + event.buf.length

/-- The call asks for a roll: the limit is exceeded, or it is time to check and the day has
changed. -/
def asksRoll (logging : Logging) (event : LogEvent) : Bool :=
  exceeds logging event || (logging.log.checkEveryN ≤ logging.log.count + 1 &&
    startOfDay event.checked ≠ logging.log.startOfPeriod)

/-- What a step must meet: a record that exceeds the limit does not come in the second of the last
roll, and a file is opened under a name that no file has. -/
def FreshRoll (localtime : Int → Tm) (logging : Logging) (event : LogEvent) : Prop :=
  (exceeds logging event = true → logging.log.lastRoll < event.rolled) ∧
    (asksRoll logging event = true → logging.log.lastRoll < event.rolled →
      logging.disk.lookup (getLogFileName localtime logging.log.basename event.rolled) = none)

instance (localtime : Int → Tm) (logging : Logging) (event : LogEvent) :
    Decidable (FreshRoll localtime logging event) :=
  inferInstanceAs (Decidable ((_ → _) ∧ (_ → _ → _)))

variable {localtime : Int → Tm} {logging : Logging} {event : LogEvent} {rollSize most : Int}
  {record : Nat} {disk : Disk} {filename data : Bytes}

section Files

/-- The handle has counted the bytes of its file, and they are no more than stated. -/
def Counts (disk : Disk) (most : Int) (file : AppendFile) : Prop :=
  ∃ content, (file.filename, content) ∈ disk ∧ content.length = file.writtenBytes ∧
    (file.writtenBytes : Int) ≤ most

/-- The files of a log are within its limit, and its handle has counted all bytes of its file,
which are no more than stated. -/
structure Sound (record : Nat) (most : Int) (logging : Logging) : Prop where
  /-- No two files have one name. -/
  keyed : Keyed logging.disk
  /-- All files are within the limit. -/
  bounded : Bounded logging.log.rollSize record logging.disk
  /-- The handle has counted the bytes of its file. -/
  current : ∀ file ∈ logging.log.file, Counts logging.disk most file

/-- A new file is within the limit and counted from zero. -/
theorem Sound.rollFile (sound : Sound record most logging) (nonnegative : 0 ≤ logging.log.rollSize)
    {now : Int} (later : logging.log.lastRoll < now)
    (fresh : logging.disk.lookup (getLogFileName localtime logging.log.basename now) = none) :
    Sound record logging.log.rollSize (logging.rollFile localtime now) := by
  unfold Logging.rollFile
  rw [if_pos later, Disk.openFile, fresh]
  refine ⟨sound.keyed.enter [] fresh, ?_, ?_⟩
  · intro file member
    rcases List.mem_cons.mp member with rfl | old
    · exact Int.add_nonneg nonnegative (Int.natCast_nonneg _)
    · exact sound.bounded file old
  · intro file current
    obtain rfl := Option.some.inj current
    exact ⟨[], List.mem_cons_self, rfl, nonnegative⟩

/-- A record within the limit of records is counted. -/
theorem Sound.appendFile (sound : Sound record logging.log.rollSize logging)
    {file : AppendFile} (current : logging.log.file = some file) (small : data.length ≤ record) :
    Sound record (logging.log.rollSize + record) (logging.appendFile file data) := by
  obtain ⟨content, stored, counted, most⟩ := sound.current file current
  have held : (logging.disk.lookup file.filename).getD [] = content := by
    rw [sound.keyed.lookup stored, Option.getD_some]
  have size : ((content ++ data).length : Int) ≤ logging.log.rollSize + record := by
    rw [List.length_append]
    omega
  unfold Logging.appendFile Disk.write
  rw [held]
  refine ⟨sound.keyed.replace _ _, ?_, ?_⟩
  · intro other member
    rcases List.mem_cons.mp member with rfl | old
    · exact size
    · exact sound.bounded other (List.mem_filter.mp old).1
  · intro other same
    obtain rfl := Option.some.inj same
    refine ⟨content ++ data, List.mem_cons_self, ?_, ?_⟩
    · rw [List.length_append, counted]
    · rw [List.length_append, counted] at size
      exact size

/-- A name that no file has is not taken by writing to a file. -/
theorem lookup_write {name : Bytes} (keyed : Keyed disk) {content : Bytes}
    (stored : (filename, content) ∈ disk) (fresh : disk.lookup name = none) :
    (disk.write filename data).lookup name = none := by
  have different : name ≠ filename := by
    rintro rfl
    exact not_mem_of_lookup_none keyed fresh content stored
  rw [Disk.write, List.lookup_cons, beq_eq_false_iff_ne.mpr different, keyed.lookup_filter, fresh]
  rfl

/-- What is counted may be bounded anew. -/
theorem Sound.lower {lower : Int} (sound : Sound record most logging)
    (less : ∀ file ∈ logging.log.file, (file.writtenBytes : Int) ≤ lower) :
    Sound record lower logging where
  keyed := sound.keyed
  bounded := sound.bounded
  current file current := by
    obtain ⟨content, stored, counted, -⟩ := sound.current file current
    exact ⟨content, stored, counted, less file current⟩

/-- Only the limit, the handle and the files matter. -/
theorem Sound.congr {other : Logging} (sound : Sound record most logging)
    (limit : other.log.rollSize = logging.log.rollSize) (file : other.log.file = logging.log.file)
    (disk : other.disk = logging.disk) : Sound record most other where
  keyed := by rw [disk]; exact sound.keyed
  bounded := by rw [limit, disk]; exact sound.bounded
  current := by rw [file, disk]; exact sound.current

/-- A roll keeps the files within the limit if a file it opens is new; in the second of the last
roll it opens none. -/
theorem Sound.roll (sound : Sound record logging.log.rollSize logging)
    (nonnegative : 0 ≤ logging.log.rollSize) {now : Int}
    (fresh : logging.log.lastRoll < now →
      logging.disk.lookup (getLogFileName localtime logging.log.basename now) = none) :
    Sound record logging.log.rollSize (logging.rollFile localtime now) := by
  by_cases later : logging.log.lastRoll < now
  · exact sound.rollFile nonnegative later (fresh later)
  · have same : logging.rollFile localtime now = logging := if_neg later
    rwa [same]

/-- The check of the day keeps the files within the limit if a file it opens is new. -/
theorem Sound.checkPeriod (sound : Sound record logging.log.rollSize logging)
    (nonnegative : 0 ≤ logging.log.rollSize) {checked rolled : Int}
    (fresh : logging.log.checkEveryN ≤ logging.log.count + 1 →
      startOfDay checked ≠ logging.log.startOfPeriod → logging.log.lastRoll < rolled →
        logging.disk.lookup (getLogFileName localtime logging.log.basename rolled) = none) :
    Sound record logging.log.rollSize (logging.checkPeriod localtime checked rolled) := by
  unfold Logging.checkPeriod
  dsimp only
  split
  · rename_i due
    split
    · rename_i changed
      let reset : Logging := { logging with log := { logging.log with count := 0 } }
      have counted : Sound record reset.log.rollSize reset := sound.congr rfl rfl rfl
      exact counted.roll nonnegative (fresh due changed)
    · split
      · exact sound.congr rfl rfl rfl
      · exact sound.congr rfl rfl rfl
  · exact sound.congr rfl rfl rfl

end Files

/-- **One append** keeps the files within the limit if a file it opens is new. -/
theorem append_sound (nonnegative : 0 ≤ logging.log.rollSize)
    (sound : Sound record logging.log.rollSize logging) (small : event.buf.length ≤ record)
    (fresh : FreshRoll localtime logging event) :
    Sound record logging.log.rollSize (logging.appendUnlocked localtime event) := by
  obtain ⟨later, unused⟩ := fresh
  unfold appendUnlocked
  unfold asksRoll exceeds at unused
  unfold exceeds at later
  cases current : logging.log.file with
  | none => exact ⟨sound.keyed, sound.bounded, by simp [current]⟩
  | some file =>
    have written := sound.appendFile current small
    obtain ⟨content, stored, -⟩ := sound.current file current
    have taken {now : Int} (free : logging.disk.lookup
        (getLogFileName localtime logging.log.basename now) = none) :
        (logging.disk.write file.filename event.buf).lookup
          (getLogFileName localtime logging.log.basename now) = none :=
      lookup_write sound.keyed stored free
    simp only [current, Option.any_some, Bool.or_eq_true, decide_eq_true_eq, Bool.and_eq_true]
      at later unused
    dsimp only
    split
    · rename_i excess
      have passed := later excess
      exact written.rollFile nonnegative passed (taken (unused (.inl excess) passed))
    · rename_i within
      have low : Sound record (logging.appendFile file event.buf).log.rollSize
          (logging.appendFile file event.buf) := by
        apply written.lower
        intro other same
        obtain rfl := Option.some.inj same
        exact Int.not_lt.mp within
      exact low.checkPeriod nonnegative fun due changed passed =>
        taken (unused (.inr ⟨due, changed⟩) passed)

/-- The limit of a log stays what it was. -/
theorem rollSize_rollFile (now : Int) :
    (logging.rollFile localtime now).log.rollSize = logging.log.rollSize := by
  unfold Logging.rollFile
  dsimp only
  split <;> rfl

/-- An append does not change the limit. -/
theorem rollSize_appendUnlocked :
    (logging.appendUnlocked localtime event).log.rollSize = logging.log.rollSize := by
  unfold appendUnlocked checkPeriod
  split
  · rfl
  · dsimp only
    split
    · exact rollSize_rollFile _
    · split
      · split
        · exact rollSize_rollFile _
        · split <;> rfl
      · rfl

/-- A new log has one empty file at most. -/
theorem create_sound (basename : Bytes) (nonnegative : 0 ≤ rollSize)
    (flushInterval checkEveryN created : Int) :
    Sound record rollSize
      (create localtime basename rollSize flushInterval checkEveryN created) := by
  let new : Logging := { log := { basename, rollSize, flushInterval, checkEveryN } }
  have empty : Sound record new.log.rollSize new := by
    refine ⟨keyed_nil, ?_, ?_⟩
    · intro file member
      cases member
    · intro file none
      cases none
  exact empty.roll nonnegative fun _ => rfl

/-- **Log files keep their limit if every file is opened under a new name.** For every reading of
local dates, in every run of appends of records of a bounded size in which each file opened has a
name that no file had, and no record exceeds the limit in the second of the last roll, no file ever
holds more than the limit and one record. -/
theorem files_bounded (localtime : Int → Tm) (basename : Bytes)
    (rollSize flushInterval checkEveryN created : Int) (record : Nat) (nonnegative : 0 ≤ rollSize)
    (events : List LogEvent) (small : ∀ event ∈ events, event.buf.length ≤ record)
    (fresh : Meets (step localtime) (FreshRoll localtime)
      (create localtime basename rollSize flushInterval checkEveryN created) events)
    (final : Logging)
    (ran : run (step localtime)
      (create localtime basename rollSize flushInterval checkEveryN created) events =
        some final) :
    Bounded rollSize record final.disk := by
  -- The log keeps its limit, and the files keep theirs.
  let kept (logging : Logging) : Prop :=
    logging.log.rollSize = rollSize ∧ Sound record rollSize logging
  let meets (logging : Logging) (event : LogEvent) : Prop :=
    FreshRoll localtime logging event ∧ event.buf.length ≤ record
  have keeps : ∀ logging event next, kept logging → meets logging event →
      step localtime logging event = some next → kept next := by
    rintro logging event next ⟨rfl, sound⟩ ⟨fresh, small⟩ stepped
    unfold step at stepped
    split at stepped
    · cases stepped
    · obtain rfl := Option.some.inj stepped
      exact ⟨rollSize_appendUnlocked, append_sound nonnegative sound small fresh⟩
  have start : kept (create localtime basename rollSize flushInterval checkEveryN created) :=
    ⟨rollSize_rollFile created, create_sound basename nonnegative _ _ _⟩
  have both := fresh.and (meets_of_mem fun event member _ => small event member)
  obtain ⟨limit, sound⟩ := run_invariant_of_meets keeps start both ran
  rw [← limit]
  exact sound.bounded

/-- The date in the zone of universal time. -/
def utc (now : Int) : Tm :=
  let days := now.fdiv rollPerSeconds + 719468
  let era := days.fdiv 146097
  let dayOfEra := days - era * 146097
  let yearOfEra := (dayOfEra - dayOfEra / 1460 + dayOfEra / 36524 - dayOfEra / 146096) / 365
  let dayOfYear := dayOfEra - (365 * yearOfEra + yearOfEra / 4 - yearOfEra / 100)
  let shifted := (5 * dayOfYear + 2) / 153
  let mon := if shifted < 10 then shifted + 3 else shifted - 9
  let year := yearOfEra + era * 400 + if mon ≤ 2 then 1 else 0
  ⟨year.toNat, mon.toNat, (dayOfYear - (153 * shifted + 2) / 5 + 1).toNat⟩

example : utc 1704067200 = ⟨2024, 1, 1⟩ := by decide

/-- Records of one byte, one day after another. -/
def daily : List LogEvent :=
  [⟨[120], 1704067201, 1704067201⟩, ⟨[120], 1704153600, 1704153600⟩,
    ⟨[120], 1704240000, 1704240000⟩]

/-- A log with a limit of one byte that rolls on another day each time. -/
theorem files_bounded_daily :
    ∃ final, run (step utc) (create utc [115] 1 3 1024 1704067200) daily = some final ∧
      final.disk.length = 2 ∧ Bounded 1 1 final.disk := by
  have checked : (run (step utc) (create utc [115] 1 3 1024 1704067200) daily).any
      (fun final => decide (final.disk.length = 2)) = true := by decide +kernel
  obtain ⟨final, ran, files⟩ := exists_of_run checked
  have fresh : Meets (step utc) (FreshRoll utc) (create utc [115] 1 3 1024 1704067200) daily := by
    decide +kernel
  exact ⟨final, ran, of_decide_eq_true files, files_bounded utc [115] 1 3 1024 1704067200 1
    (by decide) daily (by decide) fresh final ran⟩

/-- The clock of a run does not go back and advances at least a second between appends. -/
def Ticks : Int → List LogEvent → Prop
  | _, [] => True
  | now, event :: events =>
    now ≤ event.checked ∧ event.checked ≤ event.rolled ∧ Ticks (event.rolled + 1) events

instance Ticks.decidable : (now : Int) → (events : List LogEvent) → Decidable (Ticks now events)
  | _, [] => .isTrue trivial
  | _, event :: events =>
    haveI := Ticks.decidable (event.rolled + 1) events
    inferInstanceAs (Decidable (_ ∧ _ ∧ _))

/-- Three records of one byte, in three seconds of one day. -/
def oneDay : List LogEvent :=
  [⟨[120], 1704067201, 1704067201⟩, ⟨[120], 1704067202, 1704067202⟩,
    ⟨[120], 1704067203, 1704067203⟩]

/-- On one day the file of a log with a limit of one byte holds three records of one byte: the
second one exceeds the limit, and the roll opens the same file again. -/
theorem one_day_unbounded :
    Ticks 1704067200 oneDay ∧ (∀ event ∈ oneDay, event.buf.length ≤ 1) ∧
      ∃ final, run (step utc) (create utc [115] 1 3 1024 1704067200) oneDay = some final ∧
        ¬ Bounded 1 1 final.disk := by
  have checked : (run (step utc) (create utc [115] 1 3 1024 1704067200) oneDay).any
      (fun final => decide (¬ Bounded 1 1 final.disk)) = true := by decide +kernel
  obtain ⟨final, ran, exceeded⟩ := exists_of_run checked
  exact ⟨by decide, by decide, final, ran, of_decide_eq_true exceeded⟩

end Overplus.Verif.LogRoll
