import Overplus.Verif.LogRoll

/-!
# How long log files are kept

A log reads the date of a file back from its name when it starts again. It reads what it wrote,
unless its own name holds the text `.log`; then it reads no date at all and keeps every file. The
date is that of the day the file was opened, so a file is kept, and only grows, until a restart
comes that many days after it was opened, whatever was written to it since.
-/
namespace Overplus.Verif.LogRetention

open Logging LogFile

variable {localtime : Int → Tm} {mktime : Int → Int → Int → Int} {basename filename content : Bytes}
  {now maxKeepDays : Int} {before middle after logging : Logging}

section Names

/-- What `mktime` makes of a date. -/
def dateTime (mktime : Int → Int → Int → Int) (tm : Tm) : Int :=
  mktime (tm.year - 1900) (tm.mon - 1) tm.mday

/-- A date with a year of four digits, and a month and a day of two at most. -/
structure FourDigits (tm : Tm) : Prop where
  /-- The year has four digits. -/
  year : 1000 ≤ tm.year ∧ tm.year ≤ 9999
  /-- The month has two digits. -/
  mon : tm.mon < 100
  /-- The day has two digits. -/
  mday : tm.mday < 100

/-- The eight digits of a date. -/
def dateDigits (tm : Tm) : Bytes :=
  decimal tm.year ++ ([decimalDigit (tm.mon / 10), decimalDigit (tm.mon % 10)] ++
    [decimalDigit (tm.mday / 10), decimalDigit (tm.mday % 10)])

/-- The name of a file is the name of the log, the date and the suffix. -/
theorem getLogFileName_eq : getLogFileName localtime basename now =
    basename ++ 46 :: (dateDigits (localtime now) ++ logSuffix) := by
  simp [getLogFileName, Tm.format, dateDigits, logSuffix]

/-- Two digits of a small number are digits. -/
theorem pair_digits {value : Nat} (small : value < 100) :
    ∀ octet ∈ [decimalDigit (value / 10), decimalDigit (value % 10)],
      48 ≤ octet.toNat ∧ octet.toNat < 58 := by
  have tens := decimalDigit_toNat (show value / 10 < 10 by omega)
  have ones := decimalDigit_toNat (show value % 10 < 10 by omega)
  intro octet member
  rcases List.mem_pair.mp member with rfl | rfl
  · omega
  · omega

/-- A date has eight digits. -/
theorem dateDigits_length {tm : Tm} (digits : FourDigits tm) : (dateDigits tm).length = 8 := by
  simp [dateDigits, decimal_length_four digits.year.1 digits.year.2]

/-- Every character of a date is a digit. -/
theorem dateDigits_digits {tm : Tm} (digits : FourDigits tm) :
    ∀ octet ∈ dateDigits tm, 48 ≤ octet.toNat ∧ octet.toNat < 58 := by
  intro octet member
  rcases List.mem_append.mp member with year | rest
  · exact decimal_digits year
  · rcases List.mem_append.mp rest with mon | mday
    · exact pair_digits digits.mon octet mon
    · exact pair_digits digits.mday octet mday

/-- The three numbers of a date are scanned. -/
theorem scan_dateDigits {tm : Tm} (digits : FourDigits tm) :
    ((scanInt 4 (dateDigits tm)).bind fun year => (scanInt 2 year.2).bind fun mon =>
      (scanInt 2 mon.2).map fun mday => (year.1, mon.1, mday.1)) =
        some ((tm.year : Int), (tm.mon : Int), (tm.mday : Int)) := by
  have four := decimal_length_four digits.year.1 digits.year.2
  have some : decimal tm.year ≠ [] := by
    intro none
    rw [none] at four
    cases four
  let day := [decimalDigit (tm.mday / 10), decimalDigit (tm.mday % 10)]
  let monthAndDay := [decimalDigit (tm.mon / 10), decimalDigit (tm.mon % 10)] ++ day
  have year : scanInt 4 (decimal tm.year ++ monthAndDay) = .some (tm.year, monthAndDay) := by
    have scanned := scanInt_digits some (fun _ member => decimal_digits member) monthAndDay
    rwa [four, digitsValue_decimal] at scanned
  have mon : scanInt 2 monthAndDay = .some (tm.mon, day) := by
    have scanned := scanInt_digits (List.cons_ne_nil _ _) (pair_digits digits.mon) day
    rwa [digitsValue_pair digits.mon] at scanned
  have mday : scanInt 2 day = .some (tm.mday, []) := by
    have scanned := scanInt_digits (List.cons_ne_nil _ _) (pair_digits digits.mday) []
    rwa [digitsValue_pair digits.mday, List.append_nil] at scanned
  have parts : dateDigits tm = decimal tm.year ++ monthAndDay := rfl
  rw [parts, year, Option.bind_some, mon, Option.bind_some, mday, Option.map_some]

/-- The suffix of a name is found at its end if it is not in the log's own name. -/
theorem find_logSuffix {digits : Bytes} (free : find logSuffix basename = none)
    (each : ∀ octet ∈ digits, 48 ≤ octet.toNat ∧ octet.toNat < 58) :
    find logSuffix (basename ++ 46 :: (digits ++ logSuffix)) =
      some (basename.length + 1 + digits.length) := by
  have fresh : (46 : UInt8) ∉ [108, 111, 103] := by decide
  have absent : (108 : UInt8) ∉ 46 :: digits := by
    intro member
    rcases List.mem_cons.mp member with same | digit
    · cases same
    · exact absurd (each _ digit).2 (by decide)
  have before : find logSuffix (46 :: digits) = none :=
    find_none_of_absent (by decide) absent
  -- The digits do not hold the suffix, so behind the name it is found where they end.
  have last : find logSuffix (46 :: digits ++ logSuffix) = some (digits.length + 1) := by
    have found := find_append_fresh fresh before [108, 111, 103]
    have self : find logSuffix logSuffix = some 0 := by decide
    calc find logSuffix (46 :: digits ++ logSuffix)
        = (find logSuffix logSuffix).map (· + (46 :: digits).length) := found
      _ = some (digits.length + 1) := by
        rw [self, Option.map_some, List.length_cons, Nat.zero_add]
  calc find logSuffix (basename ++ 46 :: (digits ++ logSuffix))
      = (find logSuffix (46 :: digits ++ logSuffix)).map (· + basename.length) :=
        find_append_fresh fresh free (digits ++ logSuffix)
    _ = some (basename.length + 1 + digits.length) := by
      rw [last, Option.map_some]
      congr 1
      omega

/-- **A log reads back the date it wrote.** For every name of a log and every date with a year of
four digits, the date of a file's name is read back as the time of that date, unless the name of
the log holds the text `.log`: then no date is read at all. -/
theorem parseLogDate_getLogFileName (localtime : Int → Tm) (mktime : Int → Int → Int → Int)
    (basename : Bytes) (opened : Int) (digits : FourDigits (localtime opened))
    (fits : basename.length ≤ Memory.maxStringSize) :
    parseLogDate mktime (getLogFileName localtime basename opened) basename =
      if find logSuffix basename = none then dateTime mktime (localtime opened) else -1 := by
  have eight := dateDigits_length digits
  have size : (getLogFileName localtime basename opened).length = basename.length + 13 := by
    rw [getLogFileName_eq]
    simp only [List.length_append, List.length_cons, eight, logSuffix, List.length_nil]
  have small : basename.length + 13 < sizeModulus := by
    unfold Memory.maxStringSize at fits
    unfold sizeModulus
    omega
  have whole : getLogFileName localtime basename opened =
      (basename ++ [46]) ++ (dateDigits (localtime opened) ++ logSuffix) := by
    rw [getLogFileName_eq, List.append_assoc]
    rfl
  have front : findResult (find (basename ++ [46])
      (getLogFileName localtime basename opened)) = 0 := by
    rw [whole, find_append_self]
    rfl
  have ending : sizeSub (getLogFileName localtime basename opened).length logSuffix.length =
      basename.length + 9 := by
    rw [size, sizeSub_exact (by simp [logSuffix]) small]
    rfl
  unfold parseLogDate
  dsimp only
  by_cases free : find logSuffix basename = none
  · have found : findResult (find logSuffix (getLogFileName localtime basename opened)) =
        basename.length + 9 := by
      rw [getLogFileName_eq, find_logSuffix free (dateDigits_digits digits), eight]
      rfl
    have count : sizeSub (sizeSub (getLogFileName localtime basename opened).length
        (basename ++ [46]).length) logSuffix.length = 8 := by
      rw [size, sizeSub_exact (by simp) small, List.length_append]
      rw [sizeSub_exact] <;> simp only [logSuffix, List.length_cons, List.length_nil] <;> omega
    have date : ((getLogFileName localtime basename opened).drop (basename ++ [46]).length).take 8 =
        dateDigits (localtime opened) := by
      rw [whole, List.drop_left, ← eight, List.take_left]
    rw [if_neg (by rw [front, found, ending]; simp), count, date, if_neg (by rw [eight]; simp),
      scan_dateDigits digits, if_pos free]
    rfl
  · have other : findResult (find logSuffix (getLogFileName localtime basename opened)) ≠
        basename.length + 9 := by
      obtain ⟨position, found⟩ := Option.ne_none_iff_exists'.mp free
      have same := find_append_left found (46 :: (dateDigits (localtime opened) ++ logSuffix))
      have inside := (append_of_find found).1
      rw [getLogFileName_eq, same]
      show position ≠ basename.length + 9
      omega
    rw [if_pos (by rw [ending]; exact .inr other), if_neg free]

end Names

section Files

/-- The files of a log stay or grow. -/
structure Grows (before after : Logging) : Prop where
  /-- The log keeps its name. -/
  basename : after.log.basename = before.log.basename
  /-- No two files have one name. -/
  keyed : Keyed before.disk → Keyed after.disk
  /-- A file keeps its bytes and may have more behind them. -/
  kept : Keyed before.disk → ∀ filename content, (filename, content) ∈ before.disk →
    ∃ later, (filename, content ++ later) ∈ after.disk

/-- Files that are the same. -/
theorem Grows.of_same (basename : after.log.basename = before.log.basename)
    (disk : after.disk = before.disk) : Grows before after where
  basename := basename
  keyed keyed := by rwa [disk]
  kept _ filename content member := ⟨[], by rwa [disk, List.append_nil]⟩

/-- One thing after another. -/
theorem Grows.trans (first : Grows before middle) (second : Grows middle after) :
    Grows before after where
  basename := second.basename.trans first.basename
  keyed keyed := second.keyed (first.keyed keyed)
  kept keyed filename content member := by
    obtain ⟨some, there⟩ := first.kept keyed filename content member
    obtain ⟨more, still⟩ := second.kept (first.keyed keyed) filename (content ++ some) there
    exact ⟨some ++ more, by rwa [← List.append_assoc]⟩

/-- A roll leaves the directory as it is or enters an empty file under a new name. -/
theorem rollFile_disk (localtime : Int → Tm) (logging : Logging) (now : Int) :
    (logging.rollFile localtime now).disk = logging.disk ∨
      ∃ filename, logging.disk.lookup filename = none ∧
        (logging.rollFile localtime now).disk = (filename, []) :: logging.disk := by
  unfold Logging.rollFile
  dsimp only
  split
  · unfold Disk.openFile
    dsimp only
    split
    · exact .inl rfl
    · rename_i missing
      exact .inr ⟨_, missing, rfl⟩
  · exact .inl rfl

/-- A roll keeps the name of the log. -/
theorem rollFile_basename (localtime : Int → Tm) (logging : Logging) (now : Int) :
    (logging.rollFile localtime now).log.basename = logging.log.basename := by
  unfold Logging.rollFile
  dsimp only
  split
  · rfl
  · rfl

/-- A roll opens a file and leaves the others. -/
theorem Grows.rollFile (logging : Logging) (now : Int) :
    Grows logging (logging.rollFile localtime now) := by
  have named := rollFile_basename localtime logging now
  rcases rollFile_disk localtime logging now with same | ⟨name, missing, entered⟩
  · exact .of_same named same
  · refine ⟨named, ?_, ?_⟩
    · intro keyed
      rw [entered]
      exact keyed.enter [] missing
    · intro _ filename content member
      refine ⟨[], ?_⟩
      rw [entered, List.append_nil]
      exact List.mem_cons_of_mem _ member

/-- A record is added to its file. -/
theorem Grows.appendFile (logging : Logging) (file : AppendFile) (data : Bytes) :
    Grows logging (logging.appendFile file data) where
  basename := rfl
  keyed keyed := keyed.replace _ _
  kept keyed filename content member := by
    by_cases own : filename = file.filename
    · have held : (logging.disk.lookup file.filename).getD [] = content := by
        rw [← own, keyed.lookup member, Option.getD_some]
      refine ⟨data, ?_⟩
      change _ ∈ logging.disk.write file.filename data
      rw [Disk.write, held, own]
      exact List.mem_cons_self
    · refine ⟨[], ?_⟩
      rw [List.append_nil]
      apply List.mem_cons_of_mem
      apply List.mem_filter.mpr
      exact ⟨member, by simpa using own⟩

/-- The check of the day. -/
theorem Grows.checkPeriod (logging : Logging) (checked rolled : Int) :
    Grows logging (logging.checkPeriod localtime checked rolled) := by
  unfold Logging.checkPeriod
  dsimp only
  split
  · split
    · have reset : Grows logging { logging with log := { logging.log with count := 0 } } :=
        .of_same rfl rfl
      exact reset.trans (.rollFile _ _)
    · split
      · exact .of_same rfl rfl
      · exact .of_same rfl rfl
  · exact .of_same rfl rfl

/-- **An append** only adds to files. -/
theorem Grows.appendUnlocked (logging : Logging) (event : LogEvent) :
    Grows logging (logging.appendUnlocked localtime event) := by
  unfold Logging.appendUnlocked
  split
  · exact .of_same rfl rfl
  · dsimp only
    split
    · exact (Grows.appendFile _ _ _).trans (.rollFile _ _)
    · exact (Grows.appendFile _ _ _).trans (.checkPeriod _ _ _)

/-- A cleanup removes the files of the log's name that are too old. -/
def expired (mktime : Int → Int → Int → Int) (maxKeepDays : Int) (basename : Bytes)
    (cleaned : Int) (filename : Bytes) : Prop :=
  0 < maxKeepDays ∧ 0 ≤ parseLogDate mktime filename basename ∧
    maxKeepDays * rollPerSeconds < cleaned - parseLogDate mktime filename basename

/-- A cleanup keeps a file as it is if it is not too old, and else removes it. -/
theorem mem_cleanupOldLogs (logging : Logging) (cleaned : Int) (file : Bytes × Bytes) :
    file ∈ (logging.cleanupOldLogs mktime maxKeepDays cleaned).disk ↔ file ∈ logging.disk ∧
      ¬ expired mktime maxKeepDays logging.log.basename cleaned file.1 := by
  unfold cleanupOldLogs expired
  by_cases none : maxKeepDays ≤ 0
  · rw [if_pos none]
    have never : ¬ 0 < maxKeepDays := by omega
    simp [never]
  · rw [if_neg none]
    have some : 0 < maxKeepDays := by omega
    rw [List.mem_filter]
    apply and_congr_right
    intro _
    simp only [Bool.not_eq_true', Bool.and_eq_false_iff, decide_eq_false_iff_not]
    omega

/-- A cleanup keeps the name of the log and the names of the files apart. -/
theorem cleanupOldLogs_keyed (logging : Logging) (cleaned : Int) :
    (logging.cleanupOldLogs mktime maxKeepDays cleaned).log.basename = logging.log.basename ∧
      (Keyed logging.disk → Keyed (logging.cleanupOldLogs mktime maxKeepDays cleaned).disk) := by
  unfold cleanupOldLogs
  split
  · exact ⟨rfl, id⟩
  · exact ⟨rfl, fun keyed => keyed.filter _⟩

/-- A restart cleans up in the directory, and then rolls. -/
theorem restart_eq (logging : Logging) (cleaned rolled : Int) :
    ∃ fresh : Logging, fresh.log.basename = logging.log.basename ∧ fresh.disk = logging.disk ∧
      logging.restart localtime mktime maxKeepDays cleaned rolled =
        (fresh.cleanupOldLogs mktime maxKeepDays cleaned).rollFile localtime rolled := by
  refine ⟨_, ?_, ?_, rfl⟩ <;> rfl

/-- A roll makes no file but an empty one. -/
theorem mem_rollFile (member : (filename, content) ∈ (logging.rollFile localtime now).disk) :
    (filename, content) ∈ logging.disk ∨ content = [] := by
  rcases rollFile_disk localtime logging now with same | ⟨name, -, entered⟩
  · exact .inl (same ▸ member)
  · rw [entered] at member
    rcases List.mem_cons.mp member with new | old
    · exact .inr (Prod.mk.inj new).2
    · exact .inl old

/-- The directory of a log with its name. -/
def Tidy (basename : Bytes) (logging : Logging) : Prop :=
  logging.log.basename = basename ∧ Keyed logging.disk

/-- **One event** in the life of a log keeps its directory tidy, and keeps the bytes of a file
unless it is a restart for which the file is too old. -/
theorem lifeStep_keeps {event : LifeEvent} (tidy : Tidy basename before)
    (stepped : before.lifeStep localtime mktime maxKeepDays event = some after) :
    Tidy basename after ∧ ∀ filename content, (filename, content) ∈ before.disk →
      (∀ cleaned rolled, event = .restart cleaned rolled →
        ¬ expired mktime maxKeepDays basename cleaned filename) →
      ∃ later, (filename, content ++ later) ∈ after.disk := by
  obtain ⟨named, keyed⟩ := tidy
  cases event with
  | append event =>
    unfold lifeStep step at stepped
    dsimp only at stepped
    split at stepped
    · cases stepped
    · obtain rfl := Option.some.inj stepped
      have grows : Grows before (before.appendUnlocked localtime event) := .appendUnlocked _ _
      refine ⟨⟨grows.basename.trans named, grows.keyed keyed⟩, ?_⟩
      intro filename content member _
      exact grows.kept keyed filename content member
  | restart cleaned rolled =>
    obtain rfl := Option.some.inj stepped
    obtain ⟨fresh, same, disk, whole⟩ := restart_eq before cleaned rolled
    have grows : Grows (fresh.cleanupOldLogs mktime maxKeepDays cleaned)
        (before.restart localtime mktime maxKeepDays cleaned rolled) := by
      rw [whole]
      exact .rollFile _ _
    obtain ⟨kept, cleans⟩ := cleanupOldLogs_keyed fresh cleaned
    have apart := cleans (disk ▸ keyed)
    refine ⟨⟨?_, grows.keyed apart⟩, ?_⟩
    · rw [grows.basename, kept, same, named]
    · intro filename content member young
      apply grows.kept apart filename content
      rw [mem_cleanupOldLogs, disk, same, named]
      exact ⟨member, young cleaned rolled rfl⟩

/-- **A life of a log** keeps its directory tidy, and keeps the bytes of a file for which no
restart in it comes too late. -/
theorem run_keeps {events : List LifeEvent} (tidy : Tidy basename before)
    (ran : run (lifeStep localtime mktime maxKeepDays) before events = some after) :
    Tidy basename after ∧ ∀ filename content, (filename, content) ∈ before.disk →
      (∀ cleaned rolled, .restart cleaned rolled ∈ events →
        ¬ expired mktime maxKeepDays basename cleaned filename) →
      ∃ later, (filename, content ++ later) ∈ after.disk := by
  induction events generalizing before with
  | nil =>
    obtain rfl := Option.some.inj ran
    exact ⟨tidy, fun filename content member _ => ⟨[], by rwa [List.append_nil]⟩⟩
  | cons event events ih =>
    obtain ⟨next, stepped, rest⟩ := Option.bind_eq_some_iff.mp ran
    obtain ⟨still, keeps⟩ := lifeStep_keeps tidy stepped
    obtain ⟨tidyAfter, keepsAfter⟩ := ih still rest
    refine ⟨tidyAfter, ?_⟩
    intro filename content member young
    have first : ∀ cleaned rolled, event = .restart cleaned rolled →
        ¬ expired mktime maxKeepDays basename cleaned filename := by
      rintro cleaned rolled rfl
      exact young cleaned rolled List.mem_cons_self
    obtain ⟨some, there⟩ := keeps filename content member first
    have others : ∀ cleaned rolled, .restart cleaned rolled ∈ events →
        ¬ expired mktime maxKeepDays basename cleaned filename :=
      fun cleaned rolled among => young cleaned rolled (List.mem_cons_of_mem _ among)
    obtain ⟨more, last⟩ := keepsAfter filename (content ++ some) there others
    exact ⟨some ++ more, by rwa [← List.append_assoc]⟩

end Files

/-- What the calendar says of the time a file was opened: the date has the usual digits, and
`mktime` finds the start of the day, up to some slack for summer time. -/
structure Dated (localtime : Int → Tm) (mktime : Int → Int → Int → Int) (slack opened : Int) :
    Prop where
  /-- The date has the usual digits. -/
  digits : FourDigits (localtime opened)
  /-- The day has started. -/
  started : dateTime mktime (localtime opened) ≤ opened + slack
  /-- The day has not ended. -/
  lasts : opened < dateTime mktime (localtime opened) + rollPerSeconds + slack

/-- A new log has a tidy directory. -/
theorem create_tidy (basename : Bytes) (rollSize flushInterval checkEveryN created : Int) :
    Tidy basename (create localtime basename rollSize flushInterval checkEveryN created) := by
  have grows : Grows { log := { basename, rollSize, flushInterval, checkEveryN } : Logging }
      (create localtime basename rollSize flushInterval checkEveryN created) := .rollFile _ _
  exact ⟨grows.basename, grows.keyed keyed_nil⟩

/-- **Log files are kept by the day they were opened.** In every life of a log, with appends and
restarts in any order: a file loses no byte, and bytes are only added behind those it has, as long
as every restart comes less than the days to keep, and one day for the date, after the file was
opened. A restart that comes more than the days to keep after it was opened leaves none of its
bytes, however recent they are. If the name of the log holds the text `.log`, or no number of days
is set, files are kept whenever restarts come. -/
theorem log_files_kept_by_date (localtime : Int → Tm) (mktime : Int → Int → Int → Int)
    (basename : Bytes)
    (rollSize flushInterval checkEveryN maxKeepDays slack created opened : Int)
    (past : List LifeEvent) (logging : Logging) (content : Bytes)
    (fits : basename.length ≤ Memory.maxStringSize)
    (dated : Dated localtime mktime slack opened)
    (ran : run (lifeStep localtime mktime maxKeepDays)
      (create localtime basename rollSize flushInterval checkEveryN created) past = some logging)
    (stored : (getLogFileName localtime basename opened, content) ∈ logging.disk) :
    (∀ events final,
      run (lifeStep localtime mktime maxKeepDays) logging events = some final →
      (0 < maxKeepDays → find logSuffix basename = none →
        ∀ cleaned rolled, .restart cleaned rolled ∈ events →
          cleaned + rollPerSeconds + slack ≤ opened + maxKeepDays * rollPerSeconds) →
      ∃ later, (getLogFileName localtime basename opened, content ++ later) ∈ final.disk) ∧
    (0 < maxKeepDays → find logSuffix basename = none →
      0 ≤ dateTime mktime (localtime opened) →
      ∀ cleaned rolled, opened + slack + maxKeepDays * rollPerSeconds < cleaned →
      ∀ left, (getLogFileName localtime basename opened, left) ∈
        (logging.restart localtime mktime maxKeepDays cleaned rolled).disk → left = []) := by
  have tidy := (run_keeps (create_tidy basename _ _ _ _) ran).1
  have date := parseLogDate_getLogFileName localtime mktime basename opened dated.digits fits
  have started := dated.started
  have lasts := dated.lasts
  constructor
  · intro events final ranOn recent
    apply (run_keeps tidy ranOn).2 _ _ stored
    rintro cleaned rolled among ⟨some, dateable, late⟩
    rw [date] at dateable late
    by_cases named : find logSuffix basename = none
    · rw [if_pos named] at late
      have soon := recent some named cleaned rolled among
      omega
    · rw [if_neg named] at dateable
      omega
  · intro some named positive cleaned rolled late left member
    obtain ⟨fresh, same, -, whole⟩ := restart_eq logging cleaned rolled
    rw [whole] at member
    rcases mem_rollFile member with old | empty
    · rw [mem_cleanupOldLogs, same, tidy.1] at old
      apply absurd _ old.2
      unfold expired
      rw [date, if_pos named]
      exact ⟨some, positive, by omega⟩
    · exact empty

/-- The time a date starts in the zone of universal time, from `tm_year`, `tm_mon` and `tm_mday`. -/
def utcTime (year mon mday : Int) : Int :=
  let shifted := if mon < 2 then year + 1899 else year + 1900
  let era := shifted.fdiv 400
  let yearOfEra := shifted - era * 400
  let month := if mon < 2 then mon + 10 else mon - 2
  let dayOfYear := (153 * month + 2) / 5 + mday - 1
  let dayOfEra := yearOfEra * 365 + yearOfEra / 4 - yearOfEra / 100 + dayOfYear
  (era * 146097 + dayOfEra - 719468) * rollPerSeconds

example : utcTime 124 0 1 = 1704067200 := by decide

/-- A record of one byte, at a time. -/
def sampleRecord (byte : UInt8) (now : Int) : LifeEvent := .append ⟨[byte], now, now⟩

/-- A log named `s` that keeps two days has written a record on the first day of a year. It writes
another one, and starts again on the next day: both are kept. If it starts again on the fourth day
instead, nothing is left of the file. -/
theorem log_files_kept_by_date_sample : ∃ logging final,
    run (lifeStep LogRoll.utc utcTime 2) (create LogRoll.utc [115] 100 3 1024 1704067200)
        [sampleRecord 1 1704067201] = some logging ∧
      run (lifeStep LogRoll.utc utcTime 2) logging
        [sampleRecord 2 1704067202, .restart 1704153600 1704153601] = some final ∧
      (∃ later, (getLogFileName LogRoll.utc [115] 1704067200, [1] ++ later) ∈ final.disk) ∧
      ∀ left, (getLogFileName LogRoll.utc [115] 1704067200, left) ∈
        (logging.restart LogRoll.utc utcTime 2 1704326400 1704326401).disk → left = [] := by
  have checked : (run (lifeStep LogRoll.utc utcTime 2)
      (create LogRoll.utc [115] 100 3 1024 1704067200) [sampleRecord 1 1704067201]).any
        (fun logging => decide
            ((getLogFileName LogRoll.utc [115] 1704067200, [1]) ∈ logging.disk) &&
          (run (lifeStep LogRoll.utc utcTime 2) logging
            [sampleRecord 2 1704067202, .restart 1704153600 1704153601]).isSome) = true := by
    decide +kernel
  obtain ⟨logging, ran, good⟩ := exists_of_run checked
  obtain ⟨present, goes⟩ := (Bool.and_eq_true _ _).mp good
  obtain ⟨final, ranOn⟩ := Option.isSome_iff_exists.mp goes
  have stored := of_decide_eq_true present
  have date : LogRoll.utc 1704067200 = ⟨2024, 1, 1⟩ := by decide
  have dated : Dated LogRoll.utc utcTime 0 1704067200 := by
    refine ⟨?_, ?_, ?_⟩
    · rw [date]
      exact ⟨by decide, by decide, by decide⟩
    · rw [date]
      decide
    · rw [date]
      decide
  obtain ⟨keeps, removes⟩ := log_files_kept_by_date LogRoll.utc utcTime [115] 100 3 1024 2 0
    1704067200 1704067200 _ logging [1] (by simp [Memory.maxStringSize]) dated ran stored
  refine ⟨logging, final, ran, ranOn, ?_, ?_⟩
  · apply keeps _ final ranOn
    intro _ _ cleaned rolled among
    obtain ⟨rfl, rfl⟩ : cleaned = 1704153600 ∧ rolled = 1704153601 := by
      simpa [sampleRecord] using among
    decide
  · apply removes (by decide) (by decide) _ _ _ (by decide)
    rw [date]
    decide

end Overplus.Verif.LogRetention
