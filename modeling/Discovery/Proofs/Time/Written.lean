import Discovery.Proofs.Decimal.Runs
import Discovery.Proofs.Time.Calendar
import Discovery.Time.Reader
import Discovery.Time.Writer
/-!
# Written instants read back

The text of an instant reads back as that instant, in whatever year, with whatever fraction, and in a leap second too.
Each part of it is written with digits that the reader of that part takes and with a mark behind them at which the reader
stops; numbers of a fixed width need no mark.
-/
namespace Discovery.Time

open Decimal (digitValue digitsAtLeast isDigit isDigit_digitChar padded value)
open Text (isBlank skipBlanks)

/-! ## Runs of digits -/

theorem isDigit_of_mem_padded {width number : Nat} : ∀ char ∈ padded width number, isDigit char = true := by
  induction width generalizing number with
  | zero => simp [padded]
  | succ width ih =>
    intro char member
    rw [padded, List.mem_append, List.mem_singleton] at member
    rcases member with front | rfl
    · exact ih char front
    · exact isDigit_digitChar _

theorem isDigit_of_mem_digitsAtLeast {width number : Nat} : ∀ char ∈ digitsAtLeast width number, isDigit char = true := by
  intro char member
  rcases List.mem_append.mp member with zero | digit
  · rw [List.eq_of_mem_replicate zero]
    decide
  · exact Decimal.isDigit_of_mem_digits number char digit

/-- Leading zeros do not count. -/
theorem value_digitsAtLeast (width number : Nat) : value (digitsAtLeast width number) = number := by
  have zeros (count : Nat) (run : List Char) : value (List.replicate count '0' ++ run) = value run := by
    induction count with
    | zero => rfl
    | succ count ih =>
      have none : digitValue '0' = 0 := by decide
      simpa [value, List.replicate_succ, none] using ih
  rw [digitsAtLeast, zeros, Decimal.value_digits]

theorem isBlank_of_isDigit {char : Char} (digit : isDigit char = true) : isBlank char = false := by
  obtain ⟨least, greatest⟩ := Decimal.isDigit_iff.mp digit
  simp [isBlank]
  omega

/-- The text starts with no blank. -/
theorem skipBlanks_run {run rest : List Char} (some : run ≠ []) (all : ∀ char ∈ run, isDigit char = true) :
    skipBlanks (run ++ rest) = run ++ rest := by
  obtain ⟨first, more, rfl⟩ := List.exists_cons_of_ne_nil some
  simp [skipBlanks, isBlank_of_isDigit (all first List.mem_cons_self)]

/-- A number with further digits behind it. -/
def continued (total : Nat) (run : List Char) : Nat := run.foldl (fun total char => total * 10 + digitValue char) total

theorem continued_cons (total : Nat) (char : Char) (run : List Char) :
    continued total (char :: run) = continued (total * 10 + digitValue char) run := rfl

theorem continued_zero (run : List Char) : continued 0 run = value run := by
  simp only [continued, value, Nat.mul_comm]

/-- Further digits do not make a number smaller. -/
theorem le_continued (total : Nat) (run : List Char) : total ≤ continued total run := by
  induction run generalizing total with
  | nil => exact Nat.le_refl total
  | cons char run ih =>
    have more := ih (total * 10 + digitValue char)
    rw [continued_cons]
    omega

/-- A reader of digits takes a run of them, if it may take so many and takes no more. -/
theorem readDigits_run {limit total : Nat} {run rest : List Char} (all : ∀ char ∈ run, isDigit char = true)
    (fits : run.length ≤ limit) (stop : run.length = limit ∨ ∀ char ∈ rest.head?, isDigit char = false)
    (small : continued total run ≤ greatestNumber) :
    readDigits limit total (run ++ rest) = .ok (continued total run, rest) := by
  induction run generalizing limit total with
  | nil =>
    cases limit with
    | zero => rfl
    | succ limit =>
      cases rest with
      | nil => rfl
      | cons char rest =>
        have other : isDigit char = false := by
          rcases stop with none | stop
          · cases none
          · exact stop char rfl
        simp [readDigits, other, continued]
  | cons char run ih =>
    obtain ⟨limit, rfl⟩ : ∃ less, limit = less + 1 := Nat.exists_eq_succ_of_ne_zero (by simp at fits; omega)
    rw [continued_cons] at small ⊢
    have within : ¬ greatestNumber < total * 10 + digitValue char :=
      Nat.not_lt.mpr (Nat.le_trans (le_continued _ run) small)
    simp only [List.cons_append, readDigits, all char List.mem_cons_self, if_true, if_neg within]
    exact ih (fun other member => all other (List.mem_cons_of_mem _ member)) (by simpa using fits)
      (by simpa using stop) small

theorem readNumber_run {limit : Nat} {run rest : List Char} (some : run ≠ []) (all : ∀ char ∈ run, isDigit char = true)
    (fits : run.length ≤ limit) (stop : run.length = limit ∨ ∀ char ∈ rest.head?, isDigit char = false)
    (small : value run ≤ greatestNumber) : readNumber limit (run ++ rest) = .ok (value run, rest) := by
  rw [← continued_zero] at small ⊢
  have read := readDigits_run all fits stop small
  obtain ⟨first, more, rfl⟩ := List.exists_cons_of_ne_nil some
  simp only [List.cons_append, readNumber, all first List.mem_cons_self, if_true]
  exact read

/-- A number that is padded with zeros is read whole, if no more digits may be taken or none follows. -/
theorem readNumber_padded {limit places number : Nat} {rest : List Char} (some : 0 < places) (fits : places ≤ limit)
    (stop : places = limit ∨ ∀ char ∈ rest.head?, isDigit char = false) (small : number < Decimal.tenTo places)
    (whole : number ≤ greatestNumber) : readNumber limit (padded places number ++ rest) = .ok (number, rest) := by
  have length := Decimal.length_padded places number
  have present : padded places number ≠ [] := List.length_pos_iff.mp (by omega)
  have same : value (padded places number) = number := by
    rw [Decimal.value_padded, Nat.mod_eq_of_lt small]
  have read := readNumber_run present isDigit_of_mem_padded (Nat.le_trans (Nat.le_of_eq length) fits)
    (by rwa [length]) (by rwa [same])
  rwa [same] at read

/-! ## Fields of two digits and marks -/

/-- A field of two digits reads back if it is within the bounds of the field, whatever follows. -/
theorem readWithin_padded {least greatest number : Nat} (rest : List Char) (fits : number < 100)
    (within : least ≤ number ∧ number ≤ greatest) :
    readWithin least greatest (padded 2 number ++ rest) = .ok (number, rest) := by
  have some : padded 2 number ≠ [] := by simp [padded]
  have read : readNumber 2 (padded 2 number ++ rest) = .ok (number, rest) :=
    readNumber_padded (by decide) (Nat.le_refl 2) (.inl rfl) fits (Nat.le_trans (Nat.le_of_lt fits) (by decide))
  rw [readWithin, skipBlanks_run some isDigit_of_mem_padded, read]
  simp only [bind, Except.bind, if_pos within]
  rfl

theorem readMark_cons {mark : Char} (visible : isBlank mark = false) (rest : List Char) :
    readMark mark (mark :: rest) = .ok ((), rest) := by
  simp [readMark, skipBlanks, visible]

/-! ## Dates -/

/-- A year with a sign has as many digits as stand there. -/
theorem readNumber_digitsAtLeast {number : Nat} (small : number ≤ greatestNumber) (rest : List Char) :
    let text := digitsAtLeast 4 number ++ '-' :: rest
    readNumber text.length text = .ok (number, '-' :: rest) := by
  intro text
  have some : digitsAtLeast 4 number ≠ [] := by
    simp [digitsAtLeast, Decimal.positional_digits.ne_nil]
  have stop : ∀ char ∈ ('-' :: rest).head?, isDigit char = false := by
    intro char member
    cases member
    rfl
  have same := value_digitsAtLeast 4 number
  rw [readNumber_run some isDigit_of_mem_digitsAtLeast (by simp [text]) (.inr stop) (same.symm ▸ small), same]

theorem skipBlanks_cons {char : Char} (visible : isBlank char = false) (rest : List Char) :
    skipBlanks (char :: rest) = char :: rest := by
  simp [skipBlanks, visible]

-- Rewriting with this lemma keeps the bounds of a year as they stand. If they were evaluated, the greater one would be
-- counted down from.
theorem ok_bind {α β ε : Type} (value : α) (next : α → Except ε β) : (Except.ok value >>= next) = next value := rfl

theorem readYear_minus {number : Nat} {text rest : List Char} (read : readNumber text.length text = .ok (number, rest))
    (fits : -(Decimal.twoTo 31 : Int) ≤ -(number : Int) ∧ -(number : Int) < Decimal.twoTo 31) :
    readYear ('-' :: text) = .ok (-(number : Int), rest) := by
  unfold readYear
  rw [skipBlanks_cons (by decide)]
  simp only [read]
  rw [ok_bind, pure_bind, if_pos fits]
  rfl

theorem readYear_plus {number : Nat} {text rest : List Char} (read : readNumber text.length text = .ok (number, rest))
    (fits : -(Decimal.twoTo 31 : Int) ≤ (number : Int) ∧ (number : Int) < Decimal.twoTo 31) :
    readYear ('+' :: text) = .ok ((number : Int), rest) := by
  unfold readYear
  rw [skipBlanks_cons (by decide)]
  simp only [read]
  rw [ok_bind, pure_bind, if_pos fits]
  rfl

theorem readYear_unsigned {number : Nat} {run rest : List Char} (some : run ≠ [])
    (all : ∀ char ∈ run, isDigit char = true) {left : List Char} (read : readNumber 4 (run ++ rest) = .ok (number, left))
    (fits : -(Decimal.twoTo 31 : Int) ≤ (number : Int) ∧ (number : Int) < Decimal.twoTo 31) :
    readYear (run ++ rest) = .ok ((number : Int), left) := by
  unfold readYear
  rw [skipBlanks_run some all]
  split
  next sign => exact absurd (Decimal.isDigit_of_run some all sign) (by decide)
  next sign => exact absurd (Decimal.isDigit_of_run some all sign) (by decide)
  next =>
    simp only [read]
    rw [ok_bind, pure_bind, if_pos fits]
    rfl

/-- A year reads back up to the mark behind it, with a sign or without. -/
theorem readYear_writeYear {year : Int} (range : leastYear ≤ year ∧ year ≤ greatestYear) (rest : List Char) :
    readYear (writeYear year ++ '-' :: rest) = .ok (year, '-' :: rest) := by
  obtain ⟨least, greatest⟩ := range
  simp only [leastYear, greatestYear] at least greatest
  have small : year.natAbs ≤ greatestNumber := Nat.le_trans (by omega : year.natAbs ≤ 1000000) (by decide)
  have bounds : -(Decimal.twoTo 31 : Int) ≤ year ∧ year < Decimal.twoTo 31 := by
    have size : Decimal.twoTo 31 = 2147483648 := by decide
    omega
  unfold writeYear
  split
  next plain =>
    -- Four digits are taken, though nothing but their number ends them.
    have some : padded 4 year.toNat ≠ [] := by simp [padded]
    have size : year.toNat < Decimal.tenTo 4 := Nat.lt_of_le_of_lt (by omega : year.toNat ≤ 9999) (by decide)
    have fits : year.toNat ≤ greatestNumber := Nat.le_trans (Int.toNat_le.mpr Int.le_natAbs) small
    have whole : (year.toNat : Int) = year := Int.toNat_of_nonneg plain.1
    have read : readNumber 4 (padded 4 year.toNat ++ '-' :: rest) = .ok (year.toNat, '-' :: rest) :=
      readNumber_padded (by decide) (Nat.le_refl 4) (.inl rfl) size fits
    rw [readYear_unsigned some isDigit_of_mem_padded read (by rwa [whole]), whole]
  next =>
    have read := readNumber_digitsAtLeast small rest
    split
    next negative =>
      have whole : -(year.natAbs : Int) = year := by
        rw [Int.ofNat_natAbs_of_nonpos (Int.le_of_lt negative), Int.neg_neg]
      rw [List.cons_append, readYear_minus read (by rwa [whole]), whole]
    next negative =>
      have whole : (year.natAbs : Int) = year := Int.natAbs_of_nonneg (Int.not_lt.mp negative)
      rw [List.cons_append, readYear_plus read (by rwa [whole]), whole]

/-- The date of an instant reads back. -/
theorem readDate_write {date : Date} (range : leastYear ≤ date.year ∧ date.year ≤ greatestYear) (valid : date.valid = true)
    (rest : List Char) : readDate (date.write ++ rest) = .ok (date, rest) := by
  have day := Date.day_le_of_valid valid
  have month : 1 ≤ date.month ∧ date.month ≤ 12 := by
    simp only [Date.valid, Bool.and_eq_true, decide_eq_true_eq] at valid
    exact valid.1.1
  have mark : isBlank '-' = false := by decide
  have text : date.write ++ rest =
      writeYear date.year ++ '-' :: (padded 2 date.month ++ '-' :: (padded 2 date.day ++ rest)) := by
    simp only [Date.write, List.append_assoc, List.cons_append]
  simp only [readDate, text, readYear_writeYear range, readMark_cons mark,
    readWithin_padded _ (by omega : date.month < 100) month, readWithin_padded _ (by omega : date.day < 100) day,
    bind, Except.bind]
  rfl

/-! ## Times of day -/

/-- A fraction counts for as many places as it has. -/
theorem readFraction_padded {places number : Nat} (some : 0 < places) (fits : places ≤ 9)
    (small : number < Decimal.tenTo places) (rest : List Char) :
    readFraction ('.' :: padded places number ++ 'Z' :: rest) =
      .ok (number * Decimal.tenTo (9 - places), 'Z' :: rest) := by
  have power : Decimal.tenTo places ≤ Decimal.tenTo 9 := Nat.pow_le_pow_right (by decide) fits
  have bounded : number ≤ greatestNumber :=
    Nat.le_trans (Nat.le_of_lt (Nat.lt_of_lt_of_le small power)) (by decide)
  have stop : ∀ char ∈ ('Z' :: rest).head?, isDigit char = false := by
    intro char member
    cases member
    rfl
  have read := readNumber_padded some fits (.inr stop) small bounded
  have taken : (padded places number ++ 'Z' :: rest).length - ('Z' :: rest).length = places := by
    rw [List.length_append, Decimal.length_padded, Nat.add_sub_cancel]
  have left : ('Z' :: rest).dropWhile isDigit = 'Z' :: rest := List.dropWhile_cons_of_neg (by decide)
  rw [List.cons_append, readFraction, read]
  simp only [bind, Except.bind, pure, Except.pure, taken, left]

theorem readFraction_writeFraction {nanos : Nat} (small : nanos < billion) (rest : List Char) :
    readFraction (writeFraction nanos ++ 'Z' :: rest) = .ok (nanos, 'Z' :: rest) := by
  have units : Decimal.tenTo 0 = 1 ∧ Decimal.tenTo 3 = 1000 ∧ Decimal.tenTo 6 = 1000000 ∧ Decimal.tenTo 9 = billion := by
    decide
  obtain ⟨unit, thousand, million, whole⟩ := units
  simp only [billion] at small whole
  unfold writeFraction
  split
  next none =>
    rw [none]
    rfl
  next =>
  split
  next millis =>
    rw [readFraction_padded (by decide) (by decide) (by omega), million]
    congr
    omega
  next =>
  split
  next micros =>
    rw [readFraction_padded (by decide) (by decide) (by omega), thousand]
    congr
    omega
  next =>
    rw [readFraction_padded (by decide) (by decide) (by omega), unit, Nat.mul_one]

/-- A time of day reads back, the leap second as second 60. -/
theorem readClock_write {second nanos : Nat} {leap : Bool} (day : second < secondsPerDay) (small : nanos < billion)
    (rest : List Char) :
    readClock (writeTimeOfDay second leap ++ writeFraction nanos ++ 'Z' :: rest) =
      .ok (⟨second / 3600, second / 60 % 60, second % 60 + if leap then 1 else 0, nanos⟩, 'Z' :: rest) := by
  simp only [secondsPerDay] at day
  have colon : isBlank ':' = false := by decide
  have seconds : (second % 60 + if leap then 1 else 0) ≤ 60 := by
    split <;> omega
  have text : writeTimeOfDay second leap ++ writeFraction nanos ++ 'Z' :: rest =
      padded 2 (second / 3600) ++ ':' :: (padded 2 (second / 60 % 60) ++ ':' ::
        (padded 2 (second % 60 + if leap then 1 else 0) ++ (writeFraction nanos ++ 'Z' :: rest))) := by
    simp only [writeTimeOfDay, List.append_assoc, List.cons_append]
  rw [readClock, text, readWithin_padded _ (by omega) (by omega), ok_bind]
  simp only [readMark_cons colon, ok_bind]
  rw [readWithin_padded _ (by omega) (by omega), ok_bind]
  simp only [readMark_cons colon, ok_bind]
  rw [readWithin_padded _ (by omega) (by omega), ok_bind]
  simp only [readFraction_writeFraction small, ok_bind]
  rfl

/-! ## Instants -/

namespace Instant

/-- The date of an instant is in the range of years. -/
theorem year_mem (instant : Instant) : leastYear ≤ (Date.ofDayNumber instant.dayNumber).year ∧
    (Date.ofDayNumber instant.dayNumber).year ≤ greatestYear := by
  obtain ⟨_, _, _, year, _⟩ := Date.ofDayNumber_spec instant.dayNumber
  have first (year : Int) : (Date.mk year 1 1).dayNumber = daysBeforeYear year - epochDays := by
    simp [Date.dayNumber, daysBeforeMonth]
  obtain ⟨since, below⟩ := instant.inRange
  simp only [earliest, latest, first, secondsPerDay] at since below
  have within : leastYear ≤ yearOfDay (instant.dayNumber + epochDays) ∧
      yearOfDay (instant.dayNumber + epochDays) < greatestYear + 1 := by
    apply yearOfDay_mem
    · simp only [dayNumber, secondsPerDay]
      omega
    · simp only [dayNumber, secondsPerDay]
      omega
  omega

theorem secondOfDay_lt (instant : Instant) : instant.secondOfDay < secondsPerDay := by
  simp only [secondOfDay, secondsPerDay]
  omega

/-- The parts in which an instant is written make it up. -/
theorem resolve_parts (instant : Instant) :
    resolve (Date.ofDayNumber instant.dayNumber)
      ⟨instant.secondOfDay / 3600, instant.secondOfDay / 60 % 60,
        instant.secondOfDay % 60 + (if billion ≤ instant.nanos then 1 else 0), instant.nanos % billion⟩ 0 = .ok instant := by
  have fraction := instant.fraction
  have dated : ¬ ¬ (leastYear ≤ (Date.ofDayNumber instant.dayNumber).year ∧
      (Date.ofDayNumber instant.dayNumber).year ≤ greatestYear ∧ (Date.ofDayNumber instant.dayNumber).valid = true) :=
    not_not.mpr ⟨instant.year_mem.1, instant.year_mem.2, Date.valid_ofDayNumber _⟩
  have parts : (instant.secondOfDay : Int) = instant.seconds - instant.dayNumber * secondsPerDay := by
    simp only [secondOfDay, dayNumber, secondsPerDay]
    omega
  have made {seconds : Int} {nanos : Nat} (whole : instant.seconds = seconds) (part : instant.nanos = nanos) :
      ofParts? seconds nanos = some instant := by
    rw [← whole, ← part, ofParts?_self]
  simp only [resolve, if_neg dated, Date.dayNumber_ofDayNumber]
  rw [if_neg (by decide)]
  by_cases leap : billion ≤ instant.nanos
  · -- A leap second extends the last second of a minute, and is written as the second after it.
    have last : instant.secondOfDay % 60 = 59 := by
      simp only [secondOfDay, secondsPerDay, billion] at *
      omega
    simp only [if_pos leap, last, if_true]
    rw [made]
    · simp only [secondsPerDay] at *
      omega
    · simp only [billion] at *
      omega
  · have small : ¬ instant.secondOfDay % 60 + 0 = 60 := by omega
    simp only [if_neg leap, if_neg small]
    rw [made]
    · simp only [secondsPerDay] at *
      omega
    · rw [Nat.mod_eq_of_lt (Nat.lt_of_not_le leap)]

/-- The text of an instant reads back as the instant. -/
theorem ofText_toText (instant : Instant) : ofText instant.toText = .ok instant := by
  have small : instant.nanos % billion < billion := Nat.mod_lt _ (by decide)
  have text : instant.write = (Date.ofDayNumber instant.dayNumber).write ++ 'T' ::
      (writeTimeOfDay instant.secondOfDay (billion ≤ instant.nanos) ++ writeFraction (instant.nanos % billion) ++
        'Z' :: []) := by
    simp only [write, List.append_assoc, List.cons_append]
  rw [ofText, toText, String.toList_ofList, readInstant, text,
    readDate_write instant.year_mem (Date.valid_ofDayNumber _), ok_bind]
  have separated (rest : List Char) : readSeparator ('T' :: rest) = .ok ((), rest) := rfl
  have utc : readZone (skipBlanks ('Z' :: [])) = .ok (0, []) := rfl
  simp only [separated, ok_bind]
  rw [readClock_write instant.secondOfDay_lt small, ok_bind]
  simp only [utc, ok_bind]
  simpa [skipBlanks] using instant.resolve_parts

end Instant

end Discovery.Time
