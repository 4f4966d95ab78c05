import RepoSurvey.Clock.Timestamp.Reader
import RepoSurvey.Proofs.Clock.Calendar
import RepoSurvey.Proofs.Number.Digits
import RepoSurvey.Proofs.Outcomes

/-!
# Timestamps and their texts

A timestamp is regular when its year is one of four digits and its offset less than a day.
`Timestamp.ofText_text` says that the text of a regular timestamp reads back as the timestamp, and
`Timestamp.regular_ofText` that whatever a text reads as is regular, the year 0 aside.
-/

namespace RepoSurvey.Clock

open Number (StopsDigits ofDigits padded)

/-- Whether a moment lies in a year that a calendar shows with four digits, the year 0 excepted. -/
def Moment.InCalendar (moment : Moment) : Prop := 1 ≤ moment.date.year ∧ moment.date.year ≤ 9999

/-- Whether a timestamp shows such a year and an offset of less than a day. -/
structure Timestamp.Regular (stamp : Timestamp) : Prop where
  inCalendar : stamp.reading.InCalendar
  offsetSmall : ∀ offset ∈ stamp.offset, offset.minutes.natAbs < 24 * 60

/-- The timestamp of a moment in the calendar is regular. -/
theorem Timestamp.regular_ofMoment {moment : Moment} (inCalendar : moment.InCalendar) :
    (Timestamp.ofMoment moment).Regular :=
  ⟨inCalendar, fun _ member => (nomatch member)⟩

/-! ## Bytes -/

/-- The bytes of a text of ASCII characters are its characters. -/
theorem bytes_of_ascii (text : String) (ascii : ∀ c ∈ text.toList, c.toNat < 128) :
    (text.toUTF8.data.toList.map fun byte => Char.ofNat byte.toNat) = text.toList := by
  have encoded : text.toUTF8.data.toList = text.toList.flatMap String.utf8EncodeChar := by
    rw [String.toUTF8_eq_toByteArray, ← String.utf8Encode_toList]
    simp [List.utf8Encode]
  rw [encoded]
  generalize text.toList = chars at ascii
  induction chars with
  | nil => rfl
  | cons c rest inductionHypothesis =>
    have small : c.toNat < 128 := ascii c (.head _)
    have size : c.utf8Size = 1 := by
      rw [Char.utf8Size_eq_one_iff, UInt32.le_iff_toNat_le]
      exact Nat.le_of_lt_succ small
    have byte : Char.ofNat c.val.toUInt8.toNat = c := by
      have same : c.val.toUInt8.toNat = c.toNat := by
        rw [UInt32.toNat_toUInt8]
        exact Nat.mod_eq_of_lt (Nat.lt_trans small (by decide))
      rw [same, Char.ofNat_toNat]
    rw [List.flatMap_cons, List.map_append, inductionHypothesis fun other member =>
      ascii other (.tail _ member), String.utf8EncodeChar_eq_singleton size, List.map_singleton, byte,
      List.singleton_append]

/-! ## Dates -/

/-- Digits are ASCII characters. -/
theorem ascii_of_isDigit {c : Char} (digit : c.isDigit = true) : c.toNat < 128 := by
  simp only [Char.isDigit, Bool.and_eq_true, decide_eq_true_eq] at digit
  have small : c.val.toNat ≤ 57 := UInt32.le_iff_toNat_le.mp digit.2
  exact Nat.lt_of_le_of_lt small (by decide)

/-- The characters of the text of a date. -/
def Date.chars (date : Date) : List Char :=
  padded 4 date.year.toNat ++ '-' :: (padded 2 date.month ++ '-' :: padded 2 date.day)

/-- The text of a date has its characters. -/
theorem Date.toList_text (date : Date) : date.text.toList = date.chars := by
  simp [Date.text, Date.chars, String.toList_append, Number.toList_padZeros]

/-- A date is read back, whatever follows it. -/
theorem Timestamp.spanDate_chars {date : Date} (valid : date.IsValid)
    (inCalendar : 0 ≤ date.year ∧ date.year ≤ 9999) (rest : List Char) :
    Timestamp.spanDate (date.chars ++ rest) = .ok (date, rest) := by
  obtain ⟨year, month, day⟩ := date
  obtain ⟨monthPositive, monthSmall, dayPositive, daySmall⟩ := valid
  obtain ⟨yearNonnegative, yearSmall⟩ := inCalendar
  dsimp only at monthPositive monthSmall dayPositive daySmall yearNonnegative yearSmall
  have dayBound : day ≤ 31 := by
    unfold Date.daysInMonth at daySmall
    split at daySmall <;> split at daySmall <;> omega
  have yearWidth : (padded 4 year.toNat).length = 4 := Number.length_padded (by decide) (by omega)
  have monthWidth : (padded 2 month).length = 2 := Number.length_padded (by decide) (by omega)
  have dayWidth : (padded 2 day).length = 2 := Number.length_padded (by decide) (by omega)
  have long : ¬(Date.chars ⟨year, month, day⟩ ++ rest).length < 10 := by
    simp only [Date.chars, List.length_append, List.length_cons, yearWidth, monthWidth, dayWidth]
    omega
  have chars : Date.chars ⟨year, month, day⟩ ++ rest =
      padded 4 year.toNat ++ ('-' :: (padded 2 month ++ ('-' :: (padded 2 day ++ rest)))) := by
    simp [Date.chars]
  have yearBack : ((year.toNat : Nat) : Int) = year := Int.toNat_of_nonneg yearNonnegative
  have yearRead := Number.takeNumber?_padded 4 year.toNat (by decide) (by omega)
    ('-' :: (padded 2 month ++ ('-' :: (padded 2 day ++ rest))))
  have monthRead := Number.takeNumber?_padded 2 month (by decide) (by omega)
    ('-' :: (padded 2 day ++ rest))
  have dayRead := Number.takeNumber?_padded 2 day (by decide) (by omega) rest
  have inYear : ¬(month = 0 ∨ 12 < month) := by omega
  have inMonth : ¬(day = 0 ∨ Date.daysInMonth year month < day) := by omega
  rw [Timestamp.spanDate, if_neg long, chars]
  have dash : ∀ rest, Moment.takeMark? ['-'] ('-' :: rest) = some rest := fun _ => rfl
  simp only [yearRead, ok_bind, dash, monthRead, dayRead, yearBack, Bool.or_eq_true,
    decide_eq_true_eq, if_neg inYear, if_neg inMonth]
  rfl

/-! ## Times of day -/

/-- The microseconds of a day. -/
def dayLength : Nat := 86400000000

/-- The characters of the text of a time of day. -/
def timeChars (inDay : Nat) : List Char :=
  let seconds := inDay / 1000000
  let fraction := inDay % 1000000
  padded 2 (seconds / 3600) ++ ':' :: (padded 2 (seconds / 60 % 60) ++ ':' ::
    (padded 2 (seconds % 60) ++ if fraction = 0 then [] else '.' :: padded 6 fraction))

/-- The text of a moment is that of its date and of its time of day. -/
theorem Moment.toList_text (moment : Moment) : moment.text.toList =
    moment.date.chars ++ 'T' :: timeChars (moment.microseconds % Moment.perDay).toNat := by
  simp only [Moment.text, timeChars, String.toList_append, Date.toList_text, Number.toList_padZeros]
  split <;> simp [Number.toList_padZeros]

/-- Whether the rest of a text does not go on with a time of day. -/
def StopsTime (rest : List Char) : Prop :=
  StopsDigits rest ∧ ∀ c ∈ rest.head?, c ≠ '.' ∧ c ≠ ','

/-- A fraction of a second is read back. -/
theorem Timestamp.spanFraction?_padded {fraction : Nat} (fits : fraction < 1000000)
    {rest : List Char} (stops : StopsDigits rest) :
    Timestamp.spanFraction? ('.' :: (padded 6 fraction ++ rest)) = some (fraction, rest) := by
  have width : (padded 6 fraction).length = 6 := Number.length_padded (by decide) (by omega)
  have taken : (padded 6 fraction ++ rest).takeWhile Char.isDigit = padded 6 fraction :=
    Number.takeWhile_digits Number.isDigit_padded stops
  have dropped : (padded 6 fraction ++ rest).dropWhile Char.isDigit = rest :=
    Number.dropWhile_digits Number.isDigit_padded stops
  have counted : (padded 6 fraction ++ List.replicate 6 '0').take 6 = padded 6 fraction := by
    rw [List.take_append_of_le_length (by omega), List.take_of_length_le (by omega)]
  have some : (padded 6 fraction).isEmpty = false := by
    cases digits : padded 6 fraction with
    | nil => simp [digits] at width
    | cons c rest => rfl
  simp only [Timestamp.spanFraction?, taken, dropped, counted, some, Number.ofDigits_padded]
  rfl

/-- Nothing is read as a fraction where a time of day has stopped. -/
theorem Timestamp.spanFraction?_stops {rest : List Char} (stops : StopsTime rest) :
    Timestamp.spanFraction? rest = some (0, rest) := by
  cases rest with
  | nil => rfl
  | cons c rest =>
    obtain ⟨noPoint, noComma⟩ := stops.2 c rfl
    simp [Timestamp.spanFraction?, noPoint, noComma]

/-- A time of day is read back, as long as nothing goes on with it. -/
theorem Timestamp.spanTime?_timeChars (inDay : Nat) (small : inDay < dayLength) {rest : List Char}
    (stops : StopsTime rest) :
    Timestamp.spanTime? (timeChars inDay ++ rest) = some ((inDay : Int), rest) := by
  unfold dayLength at small
  have hours : inDay / 1000000 / 3600 < 24 := by omega
  have fraction : Timestamp.spanFraction?
      ((if inDay % 1000000 = 0 then [] else '.' :: padded 6 (inDay % 1000000)) ++ rest) =
        some (inDay % 1000000, rest) := by
    split
    · next whole =>
      rw [whole]
      exact spanFraction?_stops stops
    · exact spanFraction?_padded (by omega) stops.1
  have hourRead := Number.takeNumber?_padded 2 (inDay / 1000000 / 3600)
    (by decide) (by omega)
  have minuteRead := Number.takeNumber?_padded 2 (inDay / 1000000 / 60 % 60)
    (by decide) (by omega)
  have secondRead := Number.takeNumber?_padded 2 (inDay / 1000000 % 60)
    (by decide) (by omega)
  have colon : ∀ rest, Moment.takeMark? [':'] (':' :: rest) = some rest := fun _ => rfl
  have inHours : ¬(23 < inDay / 1000000 / 3600 ∨ 59 < inDay / 1000000 / 60 % 60) := by omega
  have inMinute : ¬59 < inDay / 1000000 % 60 := by omega
  simp only [timeChars, Timestamp.spanTime?, List.append_assoc, List.cons_append, hourRead,
    minuteRead, secondRead, colon, fraction, Option.bind_eq_bind, Option.bind_some, Bool.or_eq_true,
    decide_eq_true_eq, if_neg inHours, if_neg inMinute]
  simp only [Option.pure_def, Option.some.injEq, Prod.mk.injEq, and_true, Moment.perSecond]
  omega

/-! ## Offsets -/

/-- The characters that tell an offset. -/
def Offset.chars (offset : Offset) : List Char :=
  if offset.minutes = 0 then ['Z']
  else
    (if offset.minutes < 0 then '-' else '+') ::
      (padded 2 (offset.minutes.natAbs / 60) ++ ':' :: padded 2 (offset.minutes.natAbs % 60))

/-- What follows a time of day has the characters of the offset. -/
theorem Offset.toList_suffix (offset : Offset) : offset.suffix.toList = offset.chars := by
  unfold Offset.suffix Offset.chars
  split
  · rfl
  · simp only [Offset.text, String.toList_append, Number.toList_padZeros]
    split <;> simp

/-- Behind a sign an offset is read as hours and minutes. -/
theorem Timestamp.readOffset?_sign (behind : Bool) (rest : List Char) :
    Timestamp.readOffset? ((if behind then '-' else '+') :: rest) = (do
      let (behind, rest) <- Timestamp.spanOffsetSign? ((if behind then '-' else '+') :: rest)
      let (hours, rest) <- Moment.takeNumber? 2 rest
      let (minutes, rest) <- Moment.takeNumber? 2 ((Moment.takeMark? [':'] rest).getD rest)
      if !rest.isEmpty || 23 < hours || 59 < minutes then none
      pure (some (⟨Number.signed behind (hours * 60 + minutes)⟩ : Offset))) := by
  cases behind <;> rfl

/-- A sign, hours and minutes are read back. -/
theorem Timestamp.readOffset?_signed (behind : Bool) {size : Nat} (small : size < 24 * 60) :
    Timestamp.readOffset? ((if behind then '-' else '+') ::
      (padded 2 (size / 60) ++ ':' :: padded 2 (size % 60))) =
        some (some ⟨Number.signed behind size⟩) := by
  have hourRead := Number.takeNumber?_padded 2 (size / 60)
    (by decide) (by omega) (':' :: padded 2 (size % 60))
  have minuteRead := Number.takeNumber?_padded 2 (size % 60)
    (by decide) (by omega) []
  rw [List.append_nil] at minuteRead
  have colon : ∀ rest, Moment.takeMark? [':'] (':' :: rest) = some rest := fun _ => rfl
  have inDay : ¬((false = true ∨ 23 < size / 60) ∨ 59 < size % 60) := by
    rintro ((impossible | late) | late)
    · cases impossible
    · omega
    · omega
  have parts : ((size / 60 : Nat) * 60 + (size % 60 : Nat) : Nat) = size := by omega
  have sign : ∀ rest, Timestamp.spanOffsetSign? ((if behind then '-' else '+') :: rest) =
      some (behind, rest) := by
    cases behind <;> exact fun _ => rfl
  generalize padded 2 (size / 60) ++ ':' :: padded 2 (size % 60) = rest at *
  rw [Timestamp.readOffset?_sign, sign]
  simp only [Option.bind_eq_bind, Option.bind_some, hourRead, colon, Option.getD_some, minuteRead,
    List.isEmpty_nil, Bool.not_true, Bool.or_eq_true, decide_eq_true_eq, if_neg inDay, parts]
  rfl

/-- An offset of less than a day is read back. -/
theorem Timestamp.readOffset?_chars {offset : Offset} (small : offset.minutes.natAbs < 24 * 60) :
    Timestamp.readOffset? offset.chars = some (some offset) := by
  obtain ⟨minutes⟩ := offset
  have read := fun behind => Timestamp.readOffset?_signed behind small
  unfold Offset.chars
  dsimp only at small read ⊢
  split
  · next universal =>
    subst universal
    rfl
  · split
    · next behind =>
      refine (read true).trans ?_
      simp only [Number.signed, if_true, Option.some.injEq, Offset.mk.injEq]
      omega
    · next ahead =>
      refine (read false).trans ?_
      simp only [Number.signed, Option.some.injEq, Offset.mk.injEq]
      rw [if_neg (by decide)]
      omega

/-- What follows a time of day stops it. -/
theorem stopsTime_suffix (offset : Option Offset) :
    StopsTime ((offset.map Offset.chars).getD []) := by
  cases offset with
  | none => simp [StopsTime]
  | some offset =>
    simp only [Option.map_some, Option.getD_some, Offset.chars]
    split
    · exact ⟨by simp [Char.isDigit], by simp⟩
    · split <;> exact ⟨by simp [Char.isDigit], by simp⟩

/-! ## Whole texts -/

namespace Timestamp

/-- The characters of the text of a timestamp. -/
def chars (stamp : Timestamp) : List Char :=
  stamp.reading.date.chars ++ 'T' ::
    (timeChars (stamp.reading.microseconds % Moment.perDay).toNat ++
      (stamp.offset.map Offset.chars).getD [])

/-- The text of a timestamp has its characters. -/
theorem toList_text (stamp : Timestamp) : stamp.text.toList = stamp.chars := by
  obtain ⟨reading, offset⟩ := stamp
  cases offset with
  | none => simp [text, chars, Moment.toList_text]
  | some offset => simp [text, chars, Moment.toList_text, Offset.toList_suffix]

/-- The text of a timestamp is written in ASCII. -/
theorem ascii_chars (stamp : Timestamp) : ∀ c ∈ stamp.chars, c.toNat < 128 := by
  have digits : ∀ {width value : Nat}, ∀ c ∈ padded width value, c.toNat < 128 :=
    fun c member => ascii_of_isDigit (Number.isDigit_padded c member)
  have offset : ∀ c ∈ (stamp.offset.map Offset.chars).getD [], c.toNat < 128 := by
    cases stamp.offset with
    | none => simp
    | some offset =>
      simp only [Option.map_some, Option.getD_some, Offset.chars]
      split
      · simp
      · simp only [List.forall_mem_cons, List.forall_mem_append]
        exact ⟨by split <;> decide, digits, by decide, digits⟩
  have fraction : ∀ value, ∀ c ∈ (if value = 0 then [] else '.' :: padded 6 value),
      c.toNat < 128 := by
    intro value
    split
    · simp
    · rw [List.forall_mem_cons]
      exact ⟨by decide, digits⟩
  simp only [chars, Date.chars, timeChars, List.forall_mem_cons, List.forall_mem_append]
  exact ⟨⟨digits, by decide, digits, by decide, digits⟩, by decide,
    ⟨digits, by decide, digits, by decide, digits, fraction _⟩, offset⟩

/-- The date and the time of day of a moment make up the moment. -/
theorem ofDate_after (moment : Moment) : (Moment.ofDate moment.date).after
    ((moment.microseconds % Moment.perDay).toNat : Nat) = moment := by
  obtain ⟨microseconds⟩ := moment
  simp only [Moment.ofDate, Moment.date, Moment.after, Date.toDays_ofDays, Moment.mk.injEq,
    Moment.perDay, Moment.perSecond]
  omega

/-- The text of a regular timestamp reads back as the timestamp. -/
theorem ofText_text {stamp : Timestamp} (regular : stamp.Regular) :
    ofText stamp.text = .ok stamp := by
  obtain ⟨inCalendar, offsetSmall⟩ := regular
  have bytes := bytes_of_ascii stamp.text (by
    rw [toList_text]
    exact ascii_chars stamp)
  have dateRead := spanDate_chars (Date.isValid_ofDays (stamp.reading.microseconds / Moment.perDay))
    ⟨by have := inCalendar.1; unfold Moment.date at this; omega, inCalendar.2⟩
  have timeRead := spanTime?_timeChars (stamp.reading.microseconds % Moment.perDay).toNat
    (by simp only [Moment.perDay, Moment.perSecond, dayLength]; omega) (stopsTime_suffix stamp.offset)
  have mark : ∀ rest, Moment.takeMark? ['T', 't', ' ', '_'] ('T' :: rest) = some rest :=
    fun _ => rfl
  have offsetRead : readOffset? ((stamp.offset.map Offset.chars).getD []) = some stamp.offset := by
    cases found : stamp.offset with
    | none => rfl
    | some offset => exact readOffset?_chars (offsetSmall offset found)
  have read : ofDateTime? stamp.chars = some stamp := by
    unfold ofDateTime? chars Moment.date
    simp only [dateRead, Except.toOption, Option.bind_eq_bind, Option.bind_some, mark, timeRead,
      offsetRead]
    exact congrArg some (congrArg (Timestamp.mk · stamp.offset) (ofDate_after stamp.reading))
  simp only [ofText, bytes, toList_text, read, Option.some_or]

/-! ## What texts read as -/

/-- A date that is read stands in the calendar and has a year of at most four digits. -/
theorem valid_of_spanDate {chars rest : List Char} {date : Date}
    (read : spanDate chars = .ok (date, rest)) :
    date.IsValid ∧ 0 ≤ date.year ∧ date.year ≤ 9999 := by
  unfold spanDate at read
  split at read
  · nomatch read
  · obtain ⟨⟨year, afterYear⟩, yearRead, read⟩ := bind_eq_ok.mp read
    obtain ⟨afterDash, -, read⟩ := bind_eq_ok.mp read
    obtain ⟨⟨month, afterMonth⟩, monthRead, read⟩ := bind_eq_ok.mp read
    obtain ⟨afterDash, -, read⟩ := bind_eq_ok.mp read
    obtain ⟨⟨day, afterDay⟩, dayRead, read⟩ := bind_eq_ok.mp read
    dsimp only at read
    split at read
    · nomatch read
    · next monthFits =>
      split at read
      · nomatch read
      · next dayFits =>
        obtain ⟨rfl, -⟩ := Prod.mk.inj (Except.ok.inj read)
        simp only [Bool.or_eq_true, decide_eq_true_eq, not_or] at monthFits dayFits
        have yearSmall : year < 10 ^ 4 := by
          cases taken : Moment.takeNumber? 4 chars with
          | none => simp [taken] at yearRead
          | some found =>
            simp only [taken, Except.ok.injEq] at yearRead
            exact Number.lt_of_takeNumber? (taken.trans (congrArg some yearRead))
        exact ⟨⟨Nat.pos_of_ne_zero monthFits.1, Nat.le_of_not_lt monthFits.2,
          Nat.pos_of_ne_zero dayFits.1, Nat.le_of_not_lt dayFits.2⟩, Int.natCast_nonneg year,
          Int.ofNat_le.mpr (Nat.le_of_lt_succ yearSmall)⟩

/-- A time of day that is read lies within a day. -/
theorem small_of_spanTime? {chars rest : List Char} {microseconds : Int}
    (read : spanTime? chars = some (microseconds, rest)) :
    0 ≤ microseconds ∧ microseconds < Moment.perDay := by
  have fractionSmall : ∀ {chars rest fraction}, spanFraction? chars = some (fraction, rest) ->
      fraction < 10 ^ 6 := by
    intro chars rest fraction read
    cases chars with
    | nil =>
      obtain ⟨rfl, -⟩ := Prod.mk.inj (Option.some.inj read)
      decide
    | cons mark chars =>
      simp only [spanFraction?] at read
      split at read
      · split at read
        · nomatch read
        · obtain ⟨rfl, -⟩ := Prod.mk.inj (Option.some.inj read)
          have width : ((chars.takeWhile Char.isDigit ++ List.replicate 6 '0').take 6).length = 6 := by
            simp
          have digits : ∀ c ∈ (chars.takeWhile Char.isDigit ++ List.replicate 6 '0').take 6,
              c.isDigit = true := by
            intro c member
            rcases List.mem_append.mp (List.mem_of_mem_take member) with digit | zero
            · exact List.all_eq_true.mp List.all_takeWhile c digit
            · obtain rfl := List.eq_of_mem_replicate zero
              rfl
          have less := Number.ofDigits_lt digits
          rw [width] at less
          exact less
      · obtain ⟨rfl, -⟩ := Prod.mk.inj (Option.some.inj read)
        decide
  unfold spanTime? at read
  simp only [Option.bind_eq_bind, Option.bind_eq_some_iff] at read
  obtain ⟨⟨hour, afterHour⟩, hourRead, afterColon, -, ⟨minute, afterMinute⟩, minuteRead, read⟩ := read
  dsimp only at read
  split at read
  · nomatch read
  · next inDay =>
    simp only [Bool.or_eq_true, decide_eq_true_eq, not_or] at inDay
    unfold Moment.perDay Moment.perSecond
    split at read
    · simp only [Option.bind_eq_some_iff] at read
      obtain ⟨⟨second, afterSecond⟩, secondRead, read⟩ := read
      dsimp only at read
      split at read
      · nomatch read
      · next inMinute =>
        obtain ⟨⟨fraction, afterFraction⟩, fractionRead, read⟩ := Option.bind_eq_some_iff.mp read
        obtain ⟨rfl, -⟩ := Prod.mk.inj (Option.some.inj read)
        have small := fractionSmall fractionRead
        unfold Moment.perSecond
        omega
    · obtain ⟨rfl, -⟩ := Prod.mk.inj (Option.some.inj read)
      unfold Moment.perSecond
      omega

/-- An offset that is read is less than a day. -/
theorem small_of_readOffset? {chars : List Char} {offset : Offset}
    (read : readOffset? chars = some (some offset)) : offset.minutes.natAbs < 24 * 60 := by
  unfold readOffset? at read
  split at read
  · nomatch read
  · cases read
    decide
  · cases read
    decide
  · simp only [Option.bind_eq_bind, Option.bind_eq_some_iff] at read
    obtain ⟨⟨behind, afterSign⟩, -, ⟨hours, afterHours⟩, -, ⟨minutes, afterMinutes⟩, -, read⟩ := read
    dsimp only at read
    split at read
    · nomatch read
    · next inDay =>
      simp only [Bool.or_eq_true, decide_eq_true_eq, not_or] at inDay
      cases read
      simp only [Number.signed]
      split <;> omega

/-- A moment on a date of the calendar is of the year of the date. -/
theorem date_after {date : Date} (valid : date.IsValid) (microseconds : Int)
    (small : 0 ≤ microseconds ∧ microseconds < Moment.perDay) :
    ((Moment.ofDate date).after microseconds).date = date := by
  have days : ((Moment.ofDate date).after microseconds).microseconds / Moment.perDay =
      date.toDays := by
    simp only [Moment.ofDate, Moment.after]
    unfold Moment.perDay Moment.perSecond at *
    omega
  rw [Moment.date, days, valid.ofDays_toDays]

/-- A timestamp that is read shows a year of four digits and an offset of less than a day. -/
structure Readable (stamp : Timestamp) : Prop where
  yearNonnegative : 0 ≤ stamp.reading.date.year
  yearSmall : stamp.reading.date.year ≤ 9999
  offsetSmall : ∀ offset ∈ stamp.offset, offset.minutes.natAbs < 24 * 60

/-- A readable timestamp is regular unless it is of the year 0. -/
theorem Readable.regular {stamp : Timestamp} (readable : stamp.Readable)
    (noYearZero : stamp.isOfYearZero = false) : stamp.Regular := by
  obtain ⟨yearNonnegative, yearSmall, offsetSmall⟩ := readable
  have different : stamp.reading.date.year ≠ 0 := by simpa [isOfYearZero] using noYearZero
  exact ⟨⟨by omega, yearSmall⟩, offsetSmall⟩

/-- Numbers read as readable timestamps. -/
theorem readable_ofWhole {number microseconds : Int} {stamp : Timestamp}
    (read : ofWhole number microseconds = .ok stamp) : stamp.Readable := by
  unfold ofWhole at read
  dsimp only at read
  generalize (if number.natAbs ≤ greatestSeconds.natAbs then number * Moment.perSecond + microseconds
    else number * 1000 + microseconds) = total at read
  split at read
  · nomatch read
  · next notEarly =>
    split at read
    · nomatch read
    · next notLate =>
      obtain rfl := Except.ok.inj read
      unfold firstSecond Moment.perSecond at notEarly
      unfold lastSecond Moment.perSecond at notLate
      have years := Date.year_ofDays (total / Moment.perDay)
        (by unfold Moment.perDay Moment.perSecond; omega)
        (by unfold Moment.perDay Moment.perSecond; omega)
      refine ⟨years.1, years.2, ?_⟩
      rintro offset member
      cases member
      decide

/-- A date with a time of day reads as a readable timestamp. -/
theorem readable_ofDateTime? {chars : List Char} {stamp : Timestamp}
    (read : ofDateTime? chars = some stamp) : stamp.Readable := by
  unfold ofDateTime? at read
  simp only [Option.bind_eq_bind, Option.bind_eq_some_iff] at read
  obtain ⟨⟨date, afterDate⟩, dateRead, afterMark, -, ⟨microseconds, afterTime⟩, timeRead, offset,
    offsetRead, read⟩ := read
  obtain rfl := Option.some.inj read
  obtain ⟨valid, yearNonnegative, yearSmall⟩ := valid_of_spanDate (ok_of_toOption dateRead)
  have same := date_after valid _ (small_of_spanTime? timeRead)
  refine ⟨?_, ?_, ?_⟩
  · dsimp only
    rw [same]
    exact yearNonnegative
  · dsimp only
    rw [same]
    exact yearSmall
  · rintro found member
    obtain rfl : offset = some found := member
    exact small_of_readOffset? offsetRead

/-- A date alone reads as a readable timestamp. -/
theorem readable_ofDateAlone {chars : List Char} {stamp : Timestamp}
    (read : ofDateAlone chars = .ok stamp) : stamp.Readable := by
  unfold ofDateAlone at read
  dsimp only at read
  split at read
  · exact readable_ofWhole read
  · obtain ⟨⟨date, rest⟩, dateRead, read⟩ := bind_eq_ok.mp read
    dsimp only at read
    split at read
    · obtain rfl := Except.ok.inj read
      obtain ⟨valid, yearNonnegative, yearSmall⟩ := valid_of_spanDate dateRead
      have same := date_after valid 0 (by decide)
      have midnight : (Moment.ofDate date).after 0 = Moment.ofDate date := by simp [Moment.after]
      rw [midnight] at same
      refine ⟨?_, ?_, fun _ member => absurd member (Option.not_mem_none _)⟩
      · simp only [ofMoment, same]
        exact yearNonnegative
      · simp only [ofMoment, same]
        exact yearSmall
    · cases read

/-- What a text reads as is a readable timestamp. -/
theorem readable_ofText {text : String} {stamp : Timestamp} (read : ofText text = .ok stamp) :
    stamp.Readable := by
  unfold ofText at read
  dsimp only at read
  split at read
  · next found isFound =>
    obtain rfl := Except.ok.inj read
    rcases Option.or_eq_some_iff.mp isFound with dateTime | ⟨-, numeral⟩
    · exact readable_ofDateTime? dateTime
    · unfold ofNumeral? at numeral
      split at numeral
      · next number isNumber => exact readable_ofWhole (ok_of_toOption numeral)
      · obtain ⟨value, -, decimal⟩ := Option.bind_eq_some_iff.mp numeral
        exact readable_ofWhole (ok_of_toOption decimal)
  · exact readable_ofDateAlone read

end Timestamp

end RepoSurvey.Clock
