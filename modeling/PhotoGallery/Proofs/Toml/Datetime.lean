import Mathlib.Data.List.DropRight
import Mathlib.Data.Nat.Digits.Defs
import PhotoGallery.Toml.Datetime

/-!
# Dates and times read back

A number below a power of ten is written with as many digits as it takes to read it back.
A fraction of a second is written without the zeros at its end, which reading it puts back.
So the text of a date, of a time of day or of both is read as what was written.
-/

namespace PhotoGallery

namespace Text

theorem digitsValue_eq_ofDigitChars (digits : List Char) :
    digitsValue digits = Nat.ofDigitChars 10 digits 0 := by
  rw [digitsValue, Nat.ofDigitChars_eq_foldl]
  simp only [Nat.mul_comm 10]
  rfl

theorem digitsValue_append_zeros (digits : List Char) (count : Nat) :
    digitsValue (digits ++ List.replicate count '0') = digitsValue digits * 10 ^ count := by
  simp only [digitsValue_eq_ofDigitChars, Nat.ofDigitChars_append,
    Nat.ofDigitChars_replicate_zero, Nat.mul_comm]

theorem digitsValue_padded (width number : Nat) : digitsValue (padded width number) = number := by
  simp only [digitsValue_eq_ofDigitChars, padded, Nat.ofDigitChars_append,
    Nat.ofDigitChars_replicate_zero, Nat.mul_zero, Nat.ofDigitChars_ten_toDigits]

theorem length_padded {width number : Nat} (positive : 0 < width) (bound : number < 10 ^ width) :
    (padded width number).length = width := by
  have fits := (Nat.length_toDigits_le_iff (by decide) positive).mpr bound
  simp only [padded, List.length_append, List.length_replicate]
  omega

theorem isDigit_of_mem_padded {width number : Nat} {character : Char}
    (member : character ∈ padded width number) : isDigit character = true := by
  rcases List.mem_append.mp member with isZero | isDigit
  · rw [List.eq_of_mem_replicate isZero]
    rfl
  · have digit := Nat.isDigit_of_mem_toDigits (by decide) (by decide) isDigit
    simpa [Char.isDigit, Text.isDigit, Char.le_def] using digit

end Text

namespace Toml

open Text (isDigit padded digitsValue)

structure Date.Valid (date : Date) : Prop where
  year : date.year < 10 ^ 4
  month : 1 ≤ date.month ∧ date.month ≤ 12
  day : 1 ≤ date.day ∧ date.day ≤ daysIn date.year date.month

structure Time.Valid (time : Time) : Prop where
  hour : time.hour ≤ 23
  minute : time.minute ≤ 59
  second : time.second ≤ 60
  nanosecond : time.nanosecond < 10 ^ 9

/-- Less than a day. -/
def Offset.Valid : Offset → Prop
  | universal => True
  | minutes count => count.natAbs < 24 * 60

/-- A date, a time of day or both, of which only both can have an offset. -/
inductive Datetime.Valid : Datetime → Prop
  | date {date : Date} (valid : date.Valid) : Valid ⟨some date, none, none⟩
  | time {time : Time} (valid : time.Valid) : Valid ⟨none, some time, none⟩
  | both {date : Date} {time : Time} {offset : Option Offset} (dateValid : date.Valid)
      (timeValid : time.Valid) (offsetValid : ∀ given, offset = some given → given.Valid) :
      Valid ⟨some date, some time, offset⟩

theorem fixedDigits_padded (count : Nat) {number : Nat} (positive : 0 < count)
    (bound : number < 10 ^ count) (rest : List Char) :
    fixedDigits count (padded count number ++ rest) = some (number, rest) := by
  have length := Text.length_padded positive bound
  have taken : (padded count number ++ rest).take count = padded count number :=
    List.take_left' length
  have left : (padded count number ++ rest).drop count = rest := List.drop_left' length
  have digits : (padded count number).all isDigit = true :=
    List.all_eq_true.mpr fun _ => Text.isDigit_of_mem_padded
  simp only [fixedDigits, taken, left, length, digits, Text.digitsValue_padded, and_self, if_true]

theorem fixedDigits_of_notDigit {count : Nat} {text : List Char} {character : Char}
    (member : character ∈ text.take count) (notDigit : isDigit character = false) :
    fixedDigits count text = none := by
  simp only [fixedDigits, ite_eq_right_iff, reduceCtorEq, imp_false, not_and]
  intro _ digits
  rw [List.all_eq_true.mp digits character member] at notDigit
  cases notDigit

theorem after_cons (character : Char) (rest : List Char) :
    after character (character :: rest) = some rest := by
  rw [after, if_pos rfl]

theorem readDate_text {date : Date} (valid : date.Valid) (rest : List Char) :
    readDate (date.text ++ rest) = some (date, rest) := by
  have ⟨someMonth, month⟩ := valid.month
  have ⟨someDay, day⟩ := valid.day
  have short : daysIn date.year date.month ≤ 31 := by
    dsimp only [daysIn]
    split_ifs <;> omega
  have monthDigits := fixedDigits_padded 2 (by decide) (by omega : date.month < 10 ^ 2)
  have dayDigits := fixedDigits_padded 2 (by decide) (by omega : date.day < 10 ^ 2)
  simp [readDate, Date.text, fixedDigits_padded 4 (by decide) valid.year, after_cons, monthDigits,
    dayDigits, valid.month, valid.day]

/-- What follows a time of day. -/
def EndsTime (rest : List Char) : Prop :=
  ∀ first, rest.head? = some first → isDigit first = false ∧ first ≠ '.'

/-- The digits of a number without the zeros at its end. -/
theorem exists_stripped (number : Nat) : ∃ digits count,
    ((padded 9 number).reverse.dropWhile (· == '0')).reverse = digits ∧
      padded 9 number = digits ++ List.replicate count '0' := by
  have zeros : ∀ character ∈ (padded 9 number).rtakeWhile (· == '0'), character = '0' :=
    fun character member => by simpa using List.mem_rtakeWhile_imp member
  refine ⟨_, ((padded 9 number).rtakeWhile (· == '0')).length, rfl, ?_⟩
  rw [← List.eq_replicate_length.mpr zeros]
  exact List.rdropWhile_append_rtakeWhile.symm

theorem EndsTime.span_append {digits rest : List Char} (ends : EndsTime rest)
    (areDigits : ∀ character ∈ digits, isDigit character = true) :
    (digits ++ rest).takeWhile isDigit = digits ∧ (digits ++ rest).dropWhile isDigit = rest := by
  rw [List.takeWhile_append_of_pos areDigits, List.dropWhile_append_of_pos areDigits]
  cases rest with
  | nil => simp
  | cons first others => simp [(ends first rfl).1]

theorem readFraction_fractionText {nanosecond : Nat} (bound : nanosecond < 10 ^ 9)
    {rest : List Char} (ends : EndsTime rest) :
    readFraction (fractionText nanosecond ++ rest) = some (nanosecond, rest) := by
  rw [fractionText]
  split
  next isZero =>
    rw [isZero, List.nil_append]
    cases rest with
    | nil => rfl
    | cons first others =>
        rw [readFraction]
        rintro _ ⟨⟩
        exact (ends '.' rfl).2 rfl
  next notZero =>
    obtain ⟨digits, count, kept, written⟩ := exists_stripped nanosecond
    have length := Text.length_padded (by decide) bound
    rw [written, List.length_append, List.length_replicate] at length
    have areDigits : ∀ character ∈ digits, isDigit character = true := fun character member =>
      Text.isDigit_of_mem_padded (written ▸ List.mem_append_left _ member)
    obtain ⟨taken, left⟩ := ends.span_append areDigits
    have short : digits.take 9 = digits := List.take_of_length_le (by omega)
    have zeros : 9 - digits.length = count := by omega
    have value := Text.digitsValue_padded 9 nanosecond
    rw [written, Text.digitsValue_append_zeros] at value
    have something : digits ≠ [] := by
      rintro rfl
      exact notZero (value.symm.trans (Nat.zero_mul _))
    rw [kept, List.cons_append, readFraction]
    simp only [taken, left, short, zeros, List.isEmpty_iff, something, if_false]
    exact congrArg (fun number => some (number, rest)) value

theorem readTime_text {time : Time} (valid : time.Valid) {rest : List Char}
    (ends : EndsTime rest) : readTime (time.text ++ rest) = some (time, rest) := by
  have ⟨hour, minute, second, nanosecond⟩ := valid
  have hourDigits := fixedDigits_padded 2 (by decide) (by omega : time.hour < 10 ^ 2)
  have minuteDigits := fixedDigits_padded 2 (by decide) (by omega : time.minute < 10 ^ 2)
  have secondDigits := fixedDigits_padded 2 (by decide) (by omega : time.second < 10 ^ 2)
  simp [readTime, Time.text, hourDigits, minuteDigits, secondDigits, after_cons,
    readFraction_fractionText nanosecond ends, hour, minute, second]

theorem readOffsetSize_text {size : Nat} (bound : size < 24 * 60) :
    readOffsetSize (padded 2 (size / 60) ++ ':' :: padded 2 (size % 60)) = some (size, []) := by
  have hourDigits := fixedDigits_padded 2 (by decide) (by omega : size / 60 < 10 ^ 2)
  have minuteDigits := fixedDigits_padded 2 (by decide) (by omega : size % 60 < 10 ^ 2) []
  have whole : size / 60 * 60 + size % 60 = size := by omega
  have hour : size / 60 ≤ 23 := by omega
  have minute : size % 60 ≤ 59 := by omega
  rw [List.append_nil] at minuteDigits
  simp [readOffsetSize, hourDigits, minuteDigits, after_cons, whole, hour, minute]

theorem readOffset_text {offset : Option Offset}
    (valid : ∀ given, offset = some given → given.Valid) :
    readOffset ((offset.map Offset.text).getD []) = some (offset, []) := by
  rcases offset with _ | _ | count
  · rfl
  · rfl
  · have size := readOffsetSize_text (valid _ rfl)
    by_cases behind : count < 0
    · have read : readOffset (Offset.minutes count).text =
          some (some (.minutes (-(count.natAbs : Int))), []) := by
        simp [Offset.text, behind, readOffset, size]
      rw [(by omega : -(count.natAbs : Int) = count)] at read
      exact read
    · have read : readOffset (Offset.minutes count).text =
          some (some (.minutes (count.natAbs : Int)), []) := by
        simp [Offset.text, behind, readOffset, size]
      rw [(by omega : (count.natAbs : Int) = count)] at read
      exact read

theorem endsTime_offset (offset : Option Offset) :
    EndsTime ((offset.map Offset.text).getD []) := by
  rcases offset with _ | _ | count
  · simp [EndsTime]
  · simp [EndsTime, Offset.text, isDigit]
  · by_cases behind : count < 0 <;> simp [EndsTime, Offset.text, behind, isDigit]

/-- A time of day does not begin like a date. -/
theorem readDate_timeText {time : Time} (valid : time.Valid) : readDate time.text = none := by
  have bound : time.hour < 10 ^ 2 := Nat.lt_of_le_of_lt valid.hour (by decide)
  have length := Text.length_padded (by decide) bound
  have colon : ':' ∈ time.text.take 4 := by
    simp [Time.text, List.take_append, length]
  rw [readDate, fixedDigits_of_notDigit colon (by decide)]
  rfl

/-- The text of a valid date, time of day or both is read as what was written. -/
theorem ofText?_text {datetime : Datetime} (valid : datetime.Valid) :
    Datetime.ofText? datetime.text = some datetime := by
  cases valid with
  | date valid =>
      have read := readDate_text valid []
      rw [List.append_nil] at read
      simp [Datetime.ofText?, Datetime.text, readDatetime, read, readClock]
  | time valid =>
      have read := readTime_text valid (by simp [EndsTime] : EndsTime [])
      rw [List.append_nil] at read
      simp [Datetime.ofText?, Datetime.text, readDatetime, readDate_timeText valid, read]
  | @both date time offset dateValid timeValid offsetValid =>
      have readTime := readTime_text timeValid (endsTime_offset offset)
      simp [Datetime.ofText?, Datetime.text, readDatetime, readDate_text dateValid, readClock,
        readTime, readOffset_text offsetValid]

example : Datetime.text ⟨some ⟨2024, 2, 29⟩, some ⟨7, 5, 60, 120000000⟩, some (.minutes (-90))⟩ =
    "2024-02-29T07:05:60.12-01:30" := by
  decide +kernel

end Toml

end PhotoGallery
