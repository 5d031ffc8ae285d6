import Tenancy.Proofs.Text.Rows
import Tenancy.Proofs.Time.Calendar
import Tenancy.Time.Rfc3339

/-!
# Time stamps read back

The written form of an instant is read as that instant, and so is every stamp of
it at another offset from UTC, as long as the clocks there show a time that is in
range.  Each part of a stamp is read up to where the next one begins.  Clocks know
leap seconds at the ends of minutes only; one within a minute is written as the
next second is.
-/

namespace Tenancy

theorem Instant.ofParts?_eq (instant : Instant) :
    ofParts? instant.seconds instant.nanoseconds = some instant :=
  dif_pos ⟨instant.notBefore, instant.notAfter, instant.fraction⟩

/-- A leap second comes after the last second of a minute. -/
def Instant.LeapsAtMinuteEnd (instant : Instant) : Prop :=
  instant.inLeapSecond = true → instant.seconds % 60 = 59

theorem Instant.fraction_add_leap (instant : Instant) :
    instant.nanoseconds % 1000000000 + (if instant.inLeapSecond then 1000000000 else 0) =
      instant.nanoseconds := by
  have fraction := instant.fraction
  unfold inLeapSecond
  simp only [decide_eq_true_eq]
  split <;> omega

namespace Rfc3339

open Text Calendar

/-- A sign or a letter, but no digit and no point, comes first. -/
def EndsFraction (rest : List Char) : Prop := Ends rest ∧ '.' ∉ rest.head?

section

variable {row rest : List Char}

theorem trimFront_mark {mark : Char} (visible : isBlank mark = false) (rest : List Char) :
    trimFront (mark :: rest) = mark :: rest := by
  simp [trimFront, visible]

theorem readNumber_row {most : Nat} (digits : IsRow row) (fits : row.length ≤ most)
    (ends : row.length = most ∨ Ends rest) :
    readNumber most (row ++ rest) = some (digitsValue 0 row, rest) := by
  have cut : Ends (rest.take (most - row.length)) := by
    rcases ends with full | ends
    · simp [Ends, full]
    · exact ends.take _
  have filled : row.isEmpty = false := by simpa using digits.filled
  rw [readNumber, List.take_append, List.take_of_length_le fits, takeWhile_row digits cut]
  simp [filled]

theorem readPart_fixedDigits {value : Nat} (small : value < 100) (rest : List Char) :
    readPart (fixedDigits 2 value ++ rest) = some (value, rest) := by
  have digits := isRow_fixedDigits (by decide : 0 < 2) value
  have length := length_fixedDigits 2 value
  rw [readPart, trimFront_row digits, readNumber_row digits (Nat.le_of_eq length) (.inl length),
    digitsValue_fixedDigits small]

theorem readMark_cons {mark : Char} (visible : isBlank mark = false) (rest : List Char) :
    readMark mark (mark :: rest) = some rest := by
  simp [readMark, trimFront_mark visible]

theorem readYear_unsigned (digits : IsRow row) (length : row.length = 4) (rest : List Char) :
    readYear (row ++ rest) = some ((digitsValue 0 row : Int), rest) := by
  rw [readYear, trimFront_row digits]
  split
  next tail shape => exact absurd digits (not_isRow_of_append_eq (by decide) shape)
  next tail shape => exact absurd digits (not_isRow_of_append_eq (by decide) shape)
  next =>
    rw [readNumber_row digits (Nat.le_of_eq length) (.inl length)]
    rfl

theorem readNumber_all (digits : IsRow row) (ends : Ends rest) :
    readNumber (row ++ rest).length (row ++ rest) = some (digitsValue 0 row, rest) := by
  have fits : row.length ≤ (row ++ rest).length := by simp
  exact readNumber_row digits fits (.inr ends)

theorem readYear_minus (digits : IsRow row) (ends : Ends rest) :
    readYear ('-' :: (row ++ rest)) = some (-(digitsValue 0 row : Int), rest) := by
  rw [readYear, trimFront_mark (by decide)]
  simp only [readNumber_all digits ends, Option.map_some]

theorem readYear_plus (digits : IsRow row) (ends : Ends rest) :
    readYear ('+' :: (row ++ rest)) = some ((digitsValue 0 row : Int), rest) := by
  rw [readYear, trimFront_mark (by decide)]
  simp only [readNumber_all digits ends, Option.map_some]

theorem readYear_yearText (year : Int) (ends : Ends rest) :
    readYear (yearText year ++ rest) = some (year, rest) := by
  unfold yearText
  split
  next before =>
    have value : -((year.natAbs : Nat) : Int) = year := by omega
    rw [List.cons_append, readYear_minus (isRow_paddedDigits (by decide) _) ends,
      digitsValue_paddedDigits, value]
  next notBefore =>
    have value : ((year.toNat : Nat) : Int) = year := by omega
    split
    next short =>
      have fits : year.toNat < Nat.pow 10 4 := by
        have bound : Nat.pow 10 4 = 10000 := rfl
        omega
      rw [readYear_unsigned (isRow_fixedDigits (by decide) _) (length_fixedDigits ..),
        digitsValue_fixedDigits fits, value]
    next long =>
      rw [List.cons_append, readYear_plus (isRow_paddedDigits (by decide) _) ends,
        digitsValue_paddedDigits, value]

theorem readDate_dateText {date : Date} (month : date.month < 100) (day : date.day < 100)
    (rest : List Char) : readDate (dateText date ++ rest) = some (date, rest) := by
  have mark (input : List Char) : readMark '-' ('-' :: input) = some input :=
    readMark_cons (by decide) input
  have year (input : List Char) :
      readYear (yearText date.year ++ '-' :: input) = some (date.year, '-' :: input) :=
    readYear_yearText date.year fun _ first => Option.mem_some.1 first ▸ by decide
  simp only [dateText, List.append_assoc, List.cons_append, List.nil_append, readDate, year,
    Option.bind_eq_bind, Option.bind_some, mark, readPart_fixedDigits month,
    readPart_fixedDigits day]
  rfl

theorem readFraction_row (digits : IsRow row) (short : row.length ≤ 9) (ends : Ends rest) :
    readFraction ('.' :: (row ++ rest)) =
      some (digitsValue 0 row * Nat.pow 10 (9 - row.length), rest) := by
  have filled : row.isEmpty = false := by simpa using digits.filled
  simp only [readFraction, List.take_append, List.take_of_length_le short,
    takeWhile_row digits (ends.take _), filled, List.drop_left,
    dropWhile_of_ends ends]
  rfl

theorem readFraction_none (pointless : '.' ∉ rest.head?) : readFraction rest = some (0, rest) := by
  unfold readFraction
  split
  next => exact absurd rfl pointless
  next => rfl

theorem readFraction_fractionText {nanoseconds : Nat} (small : nanoseconds < 1000000000)
    (ends : EndsFraction rest) :
    readFraction (fractionText nanoseconds ++ rest) = some (nanoseconds, rest) := by
  have atWidth {width part : Nat} (wide : 0 < width) (within : width ≤ 9)
      (fits : part < Nat.pow 10 width) (whole : part * Nat.pow 10 (9 - width) = nanoseconds) :
      readFraction ('.' :: fixedDigits width part ++ rest) = some (nanoseconds, rest) := by
    have length := length_fixedDigits width part
    rw [List.cons_append, readFraction_row (isRow_fixedDigits wide part) (by omega) ends.1, length,
      digitsValue_fixedDigits fits, whole]
  have powers : Nat.pow 10 0 = 1 ∧ Nat.pow 10 3 = 1000 ∧ Nat.pow 10 6 = 1000000 ∧
      Nat.pow 10 9 = 1000000000 := by decide
  unfold fractionText
  split
  next none =>
    rw [none]
    exact readFraction_none ends.2
  next =>
    split
    next milli => exact atWidth (by decide) (by decide) (by omega) (by simp only [powers]; omega)
    next =>
      split
      next micro => exact atWidth (by decide) (by decide) (by omega) (by simp only [powers]; omega)
      next => exact atWidth (by decide) (by decide) (by omega) (by simp only [powers]; omega)

/-- A leap second has the number sixty in the text, and a billion nanoseconds when read. -/
theorem readTime_timeText {second nanoseconds : Nat} {leap : Bool} (inDay : second < 86400)
    (last : leap = true → second % 60 = 59) (small : nanoseconds < 1000000000)
    (ends : EndsFraction rest) :
    readTime (timeText second leap ++ (fractionText nanoseconds ++ rest)) =
      some ((second, nanoseconds + if leap then 1000000000 else 0), rest) := by
  have mark (input : List Char) : readMark ':' (':' :: input) = some input :=
    readMark_cons (by decide) input
  have hour : second / 3600 < 100 := by omega
  have minute : second / 60 % 60 < 100 := by omega
  have counted : (second % 60 + if leap then 1 else 0) < 100 := by split <;> omega
  simp only [timeText, List.append_assoc, List.cons_append, List.nil_append, readTime,
    Option.bind_eq_bind, Option.bind_some, mark, readPart_fixedDigits hour,
    readPart_fixedDigits minute, readPart_fixedDigits counted, readFraction_fractionText small ends]
  cases leap with
  | false =>
      have valid : second / 3600 ≤ 23 ∧ second / 60 % 60 ≤ 59 ∧ second % 60 ≤ 60 := by omega
      have ordinary : second % 60 ≠ 60 := by omega
      have sum : second / 3600 * 3600 + second / 60 % 60 * 60 + second % 60 = second := by omega
      simp [valid, ordinary, sum]
  | true =>
      have ending : second % 60 = 59 := last rfl
      have valid : second / 3600 ≤ 23 ∧ second / 60 % 60 ≤ 59 := by omega
      have sum : second / 3600 * 3600 + second / 60 % 60 * 60 + 59 = second := by omega
      simp [valid, ending, sum, Nat.add_comm nanoseconds]

end

/-- What clocks show, and the word for where they are. -/
def stamp (clocks : Instant) (zone : List Char) : String :=
  String.ofList
    (wholeSecondText clocks ++ fractionText (clocks.nanoseconds % 1000000000) ++ zone)

theorem localSecond?_ofDayNumber (clocks : Instant) :
    localSecond? (Date.ofDayNumber (clocks.seconds / 86400)) (clocks.seconds % 86400).toNat =
      some clocks.seconds := by
  have sum : clocks.seconds / 86400 * 86400 + ((clocks.seconds % 86400).toNat : Int) =
      clocks.seconds := by omega
  rw [localSecond?, dayNumber_ofDayNumber, exists_ofDayNumber]
  simp only [sum]
  exact if_pos ⟨trivial, clocks.notBefore, clocks.notAfter⟩

/-- The parts of a stamp make up the instant again that is behind what the clocks show. -/
theorem read?_stamp {clocks : Instant} (atEnd : clocks.LeapsAtMinuteEnd) {zone : List Char}
    {offset : Int} (zoned : readOffset zone = some (offset, [])) (ends : EndsFraction zone)
    (small : offset.natAbs < 86400) :
    read? (stamp clocks zone) =
      Instant.ofParts? (clocks.seconds - offset) clocks.nanoseconds := by
  have valid := exists_ofDayNumber (clocks.seconds / 86400)
  have month := month_le_of_exists valid
  have day := day_le_of_exists valid
  have last : clocks.inLeapSecond = true → (clocks.seconds % 86400).toNat % 60 = 59 := by
    intro leap
    have last := atEnd leap
    omega
  have inDay : (clocks.seconds % 86400).toNat < 86400 := by omega
  have fraction : clocks.nanoseconds % 1000000000 < 1000000000 := by omega
  -- The reader takes the parts one after the other, each up to the next one's mark.
  have shape : (stamp clocks zone).toList =
      dateText (Date.ofDayNumber (clocks.seconds / 86400)) ++
        'T' :: (timeText (clocks.seconds % 86400).toNat clocks.inLeapSecond ++
          (fractionText (clocks.nanoseconds % 1000000000) ++ zone)) := by
    simp [stamp, wholeSecondText]
  rw [read?, shape, readDate_dateText (by omega) (by omega)]
  simp only [Option.bind_eq_bind, Option.bind_some, readTime_timeText inDay last fraction ends,
    clocks.fraction_add_leap, zoned, localSecond?_ofDayNumber]
  exact if_pos ⟨rfl, small⟩

theorem read?_write {instant : Instant} (atEnd : instant.LeapsAtMinuteEnd) :
    read? (write instant) = some instant := by
  have ends : EndsFraction ['Z'] := by
    refine ⟨fun _ first => Option.mem_some.1 first ▸ by decide, by decide⟩
  have read := read?_stamp atEnd (rfl : readOffset ['Z'] = some (0, [])) ends (by decide)
  rw [Int.sub_zero, instant.ofParts?_eq] at read
  exact read

/-- Within a minute a leap second has the text of the second after it. -/
theorem timeText_early {second : Nat} (early : second % 60 < 59) :
    timeText second true = timeText (second + 1) false := by
  have hour : (second + 1) / 3600 = second / 3600 := by omega
  have minute : (second + 1) / 60 % 60 = second / 60 % 60 := by omega
  have next : (second + 1) % 60 = second % 60 + 1 := by omega
  simp [timeText, hour, minute, next]

/-- A leap second within a minute is another instant than the one that it is written as. -/
theorem exists_write_eq {instant : Instant} (early : ¬instant.LeapsAtMinuteEnd) :
    ∃ later : Instant, later.LeapsAtMinuteEnd ∧ write instant = write later ∧
      later.seconds = instant.seconds + 1 ∧
      later.nanoseconds + 1000000000 = instant.nanoseconds := by
  obtain ⟨leap, within⟩ := Classical.not_imp.1 early
  have long : 1000000000 ≤ instant.nanoseconds := of_decide_eq_true leap
  have notBefore := instant.notBefore
  have notAfter := instant.notAfter
  have fraction := instant.fraction
  have last : latestSecond % 60 = 59 := by decide
  let later : Instant :=
    ⟨instant.seconds + 1, instant.nanoseconds - 1000000000, by omega, by omega, by omega⟩
  have regular : later.inLeapSecond = false := decide_eq_false (by simp only [later]; omega)
  have day : (instant.seconds + 1) / 86400 = instant.seconds / 86400 := by omega
  have time : ((instant.seconds + 1) % 86400).toNat = (instant.seconds % 86400).toNat + 1 := by
    omega
  have rest : (instant.nanoseconds - 1000000000) % 1000000000 =
      instant.nanoseconds % 1000000000 := by omega
  refine ⟨later, fun other => ?_, ?_, rfl, by simp only [later]; omega⟩
  · rw [regular] at other
    cases other
  · rw [write, write, wholeSecondText, wholeSecondText, leap, regular,
      timeText_early (by omega)]
    simp only [later, day, time, rest]

/-- The first instant but one. -/
example : write ⟨earliestSecond, 1, by decide, by decide, by decide⟩ =
    "-262143-01-01T00:00:00.000000001Z" := by decide +kernel

/-- An offset from UTC of less than a day. -/
structure Offset where
  west : Bool
  hours : Nat
  minutes : Nat
  inDay : hours < 24
  inHour : minutes < 60

namespace Offset

def span (offset : Offset) : Nat := offset.hours * 3600 + offset.minutes * 60

/-- How far the clocks at the offset are ahead of UTC. -/
def seconds (offset : Offset) : Int :=
  if offset.west then -(offset.span : Int) else offset.span

def text (offset : Offset) : List Char :=
  (if offset.west then '-' else '+') ::
    (fixedDigits 2 offset.hours ++ ':' :: fixedDigits 2 offset.minutes)

/-- What the clocks at the offset show at an instant. -/
def clocks (offset : Offset) (instant : Instant)
    (notBefore : earliestSecond ≤ instant.seconds + offset.seconds)
    (notAfter : instant.seconds + offset.seconds ≤ latestSecond) : Instant where
  seconds := instant.seconds + offset.seconds
  nanoseconds := instant.nanoseconds
  notBefore := notBefore
  notAfter := notAfter
  fraction := instant.fraction

theorem leapsAtMinuteEnd_clocks (offset : Offset) {instant : Instant}
    (atEnd : instant.LeapsAtMinuteEnd)
    (notBefore : earliestSecond ≤ instant.seconds + offset.seconds)
    (notAfter : instant.seconds + offset.seconds ≤ latestSecond) :
    (offset.clocks instant notBefore notAfter).LeapsAtMinuteEnd := by
  intro inLeapSecond
  have last := atEnd inLeapSecond
  change (instant.seconds + offset.seconds) % 60 = 59
  unfold seconds span
  split <;> omega

theorem natAbs_seconds_lt (offset : Offset) : offset.seconds.natAbs < 86400 := by
  have inDay := offset.inDay
  have inHour := offset.inHour
  unfold seconds span
  split <;> omega

end Offset

theorem readPair_fixedDigits {value : Nat} (small : value < 100) (rest : List Char) :
    readPair (fixedDigits 2 value ++ rest) = some (value, rest) := by
  have tens : value / 10 % 10 < 10 := by omega
  have ones : value % 10 < 10 := by omega
  have sum : value / 10 % 10 * 10 + value % 10 = value := by omega
  simp only [fixedDigits, List.nil_append, List.cons_append, readPair, digitValue?_digitChar tens,
    digitValue?_digitChar ones, Option.bind_eq_bind, Option.bind_some, sum]
  rfl

theorem readOffsetSpan_append {hours minutes : Nat} (inDay : hours < 24) (inHour : minutes < 60) :
    readOffsetSpan (fixedDigits 2 hours ++ ':' :: fixedDigits 2 minutes) =
      some (hours * 3600 + minutes * 60, []) := by
  have first (rest : List Char) : readPair (fixedDigits 2 hours ++ rest) = some (hours, rest) :=
    readPair_fixedDigits (by omega) rest
  have second := readPair_fixedDigits (by omega : minutes < 100) []
  have between : (':' :: fixedDigits 2 minutes).dropWhile
      (fun next => next == ':' || isBlank next) = fixedDigits 2 minutes := by
    have digits := isRow_fixedDigits (by decide : 0 < 2) minutes
    obtain ⟨one, others, shape⟩ := List.exists_cons_of_ne_nil digits.filled
    rw [shape] at digits ⊢
    have digit := digits.digits one List.mem_cons_self
    have visible := isBlank_eq_false_of_isDigit digit
    have other : one ≠ ':' := by
      rintro rfl
      exact absurd digit (by decide)
    simp [other, visible]
  rw [List.append_nil] at second
  simp only [readOffsetSpan, first, Option.bind_eq_bind, Option.bind_some, between, second]
  exact if_pos (by omega)

theorem readOffset_text (offset : Offset) :
    readOffset offset.text = some (offset.seconds, []) := by
  obtain ⟨west, hours, minutes, inDay, inHour⟩ := offset
  have span := readOffsetSpan_append inDay inHour
  cases west with
  | false =>
      change readOffset ('+' :: _) = _
      rw [readOffset, trimFront_mark (by decide)]
      simp only [span]
      rfl
  | true =>
      change readOffset ('-' :: _) = _
      rw [readOffset, trimFront_mark (by decide)]
      simp only [span]
      rfl

/-- The text is the instant, at some offset from UTC. -/
inductive Shows : String → Instant → Prop where
  | utc {instant : Instant} (atEnd : instant.LeapsAtMinuteEnd) : Shows (write instant) instant
  | atOffset (offset : Offset) {instant : Instant} (atEnd : instant.LeapsAtMinuteEnd)
      (notBefore : earliestSecond ≤ instant.seconds + offset.seconds)
      (notAfter : instant.seconds + offset.seconds ≤ latestSecond) :
      Shows (stamp (offset.clocks instant notBefore notAfter) offset.text) instant

theorem Shows.read? {text : String} {instant : Instant} (shows : Shows text instant) :
    read? text = some instant := by
  cases shows with
  | utc atEnd => exact read?_write atEnd
  | atOffset offset atEnd notBefore notAfter =>
      have ends : EndsFraction offset.text := by
        unfold Offset.text
        cases offset.west <;>
          exact ⟨fun _ first => Option.mem_some.1 first ▸ by decide, by simp⟩
      have onClocks := offset.leapsAtMinuteEnd_clocks atEnd notBefore notAfter
      have behind : (offset.clocks instant notBefore notAfter).seconds - offset.seconds =
          instant.seconds := Int.add_sub_cancel ..
      rw [read?_stamp onClocks (readOffset_text offset) ends offset.natAbs_seconds_lt, behind]
      exact instant.ofParts?_eq

end Rfc3339

end Tenancy
