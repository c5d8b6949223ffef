import Switchboard.Time.Text
/-!
# Timestamps read back

A timestamp that lies in the years a reader accepts is read back from its text, with every
nanosecond, leap seconds included (`read_write`). Each part is read from the way it is written,
whatever follows it, and the parts follow each other.
-/

namespace Switchboard.Timestamp

open Switchboard.Text (isBlank trimLeft)

/-! ## Numbers and parts -/

/-- A run of digits is read as its number if it fills the width or no further digit follows. -/
theorem scanNumber_run {width : Nat} {run rest : List Char}
    (digits : ∀ c ∈ run, Decimal.isDigit c = true) (some_digit : run ≠ [])
    (fits : run.length ≤ width) (ends : run.length = width ∨ Decimal.EndsDigits rest) :
    scanNumber width (run ++ rest) = some (Decimal.value run, rest) := by
  have left : Decimal.EndsDigits (rest.take (width - run.length)) := by
    rcases ends with full | ends
    · rw [full, Nat.sub_self, List.take_zero]
      exact Decimal.endsDigits_nil
    · exact ends.take _
  have taken : ((run ++ rest).take width).takeWhile Decimal.isDigit = run := by
    rw [List.take_append, List.take_of_length_le fits, Decimal.takeWhile_isDigit digits left]
  simp only [scanNumber, taken, List.isEmpty_iff, some_digit, if_false, List.drop_left]

private theorem scanNumber_padded {width n : Nat} (wide : 0 < width) (fits : n < Nat.pow 10 width)
    (rest : List Char) : scanNumber width (Decimal.padded width n ++ rest) = some (n, rest) := by
  have length := Decimal.length_padded wide fits
  rw [scanNumber_run (fun c => Decimal.isDigit_of_mem_padded) (Decimal.padded_ne_nil width n)
    (Nat.le_of_eq length) (.inl length), Decimal.value_padded]

private theorem trimLeft_cons {c : Char} (h : isBlank c = false) (text : List Char) :
    trimLeft (c :: text) = c :: text := by
  rw [trimLeft, List.dropWhile_cons_of_neg (by rw [h]; decide)]

theorem isBlank_of_isDigit {c : Char} (h : Decimal.isDigit c = true) : isBlank c = false := by
  have range : 48 ≤ c.toNat ∧ c.toNat ≤ 57 := by
    simp only [Decimal.isDigit, Bool.and_eq_true, decide_eq_true_eq] at h
    exact h
  simp only [isBlank, Bool.or_eq_false_iff, Bool.and_eq_false_iff, decide_eq_false_iff_not,
    beq_eq_false_iff_ne]
  omega

private theorem trimLeft_padded (width n : Nat) (rest : List Char) :
    trimLeft (Decimal.padded width n ++ rest) = Decimal.padded width n ++ rest := by
  obtain ⟨c, tail, h, digit⟩ := Decimal.padded_eq_cons width n
  rw [h, List.cons_append, trimLeft_cons (isBlank_of_isDigit digit)]

/-- A part of two digits is read behind its separator. -/
theorem scanPart_padded {separator : Char} (seen : isBlank separator = false) {n : Nat}
    (fits : n < 100) (rest : List Char) :
    scanPart separator (separator :: (Decimal.padded 2 n ++ rest)) = some (n, rest) := by
  simp only [scanPart, trimLeft_cons seen, scanChar, if_true, Option.bind_some, trimLeft_padded]
  exact scanNumber_padded (by decide) fits rest

/-! ## Years and fractions -/

/-- A year that begins with a digit has no sign. -/
theorem scanYear_digit {c : Char} (h : Decimal.isDigit c = true) (text : List Char) :
    scanYear (c :: text) = (scanNumber 4 (c :: text)).map fun (n, rest) => ((n : Int), rest) := by
  have sign : Decimal.isDigit '-' = false ∧ Decimal.isDigit '+' = false := by decide
  unfold scanYear
  split
  · next tail same =>
    rw [(List.cons.inj same).1, sign.1] at h
    cases h
  · next tail same =>
    rw [(List.cons.inj same).1, sign.2] at h
    cases h
  · rfl

/-- A year is read back, with its sign if it has one. -/
theorem scanYear_writeYear (year : Int) {rest : List Char} (ends : Decimal.EndsDigits rest) :
    scanYear (trimLeft (writeYear year ++ rest)) = some (year, rest) := by
  by_cases plain : 0 ≤ year ∧ year ≤ 9999
  · obtain ⟨c, tail, h, digit⟩ := Decimal.padded_eq_cons 4 year.toNat
    have four := scanNumber_padded (show 0 < 4 by decide) (show year.toNat < 10000 by omega) rest
    rw [writeYear, if_pos plain, trimLeft_padded]
    rw [h, List.cons_append] at four ⊢
    rw [scanYear_digit digit, four, Option.map_some]
    simp only [Int.toNat_of_nonneg plain.1]
  · have all : scanNumber (Decimal.padded 4 year.natAbs ++ rest).length
        (Decimal.padded 4 year.natAbs ++ rest) = some (year.natAbs, rest) := by
      rw [scanNumber_run (fun c => Decimal.isDigit_of_mem_padded) (Decimal.padded_ne_nil 4 _)
        (by simp only [List.length_append]; omega) (.inr ends), Decimal.value_padded]
    rw [writeYear, if_neg plain]
    by_cases negative : year < 0
    · have whole : -(year.natAbs : Int) = year := by omega
      rw [if_pos negative, List.cons_append, trimLeft_cons (by decide), scanYear, all]
      simp only [Option.map_some, whole]
    · have whole : (year.natAbs : Int) = year := by omega
      rw [if_neg negative, List.cons_append, trimLeft_cons (by decide), scanYear, all]
      simp only [Option.map_some, whole]

private theorem scanFraction_padded {places n : Nat} (some_place : 0 < places)
    (at_most : places ≤ 9) (fits : n < Nat.pow 10 places) {rest : List Char}
    (ends : Decimal.EndsDigits rest) :
    scanFraction ('.' :: (Decimal.padded places n ++ rest))
      = some (n * Nat.pow 10 (9 - places), rest) := by
  have length := Decimal.length_padded some_place fits
  have digits : ∀ c ∈ Decimal.padded places n, Decimal.isDigit c = true :=
    fun c => Decimal.isDigit_of_mem_padded
  have run := Decimal.takeWhile_isDigit digits ends
  simp only [scanFraction, run, List.isEmpty_iff, Decimal.padded_ne_nil, if_false,
    List.take_of_length_le (show (Decimal.padded places n).length ≤ 9 by omega),
    Decimal.value_padded, length]
  rw [List.drop_left' length]

/-- The fraction is read back, whichever number of digits it was written with. -/
theorem scanFraction_writeFraction {nanosecond : Nat} (small : nanosecond < 1000000000)
    (rest : List Char) :
    scanFraction (writeFraction nanosecond ++ 'Z' :: rest) = some (nanosecond, 'Z' :: rest) := by
  have ends : Decimal.EndsDigits ('Z' :: rest) := Decimal.endsDigits_cons (by decide) rest
  have thousand : Nat.pow 10 (9 - 6) = 1000 := rfl
  have million : Nat.pow 10 (9 - 3) = 1000000 := rfl
  have one : Nat.pow 10 (9 - 9) = 1 := rfl
  unfold writeFraction
  split
  · next whole => rw [whole]; rfl
  split
  · next millis =>
    have fits : nanosecond / 1000000 < 1000 := by omega
    rw [List.cons_append, scanFraction_padded (by decide) (by decide) fits ends, million,
      Nat.div_mul_cancel (Nat.dvd_of_mod_eq_zero millis)]
  split
  · next micros =>
    have fits : nanosecond / 1000 < 1000000 := by omega
    rw [List.cons_append, scanFraction_padded (by decide) (by decide) fits ends, thousand,
      Nat.div_mul_cancel (Nat.dvd_of_mod_eq_zero micros)]
  · rw [List.cons_append, scanFraction_padded (by decide) (by decide) small ends, one,
      Nat.mul_one]

/-! ## The whole text -/

/-- The clocks of UTC show the time itself. -/
theorem ofLocal?_self (time : Timestamp) :
    ofLocal? time.date time.hour time.minute time.second time.nanosecond 0 = some time := by
  have valid := time.valid
  have shown : ((time.hour * 60 + time.minute : Nat) : Int) - 0
      = (time.hour * 60 + time.minute : Nat) := Int.sub_zero _
  have before : ¬((time.hour * 60 + time.minute : Nat) : Int) < 0 := by omega
  have after : ¬(1440 ≤ ((time.hour * 60 + time.minute : Nat) : Int)) := by omega
  have minutes : (((time.hour * 60 + time.minute : Nat) : Int) % 1440).toNat
      = time.hour * 60 + time.minute := by omega
  have hours : (time.hour * 60 + time.minute) / 60 = time.hour := by omega
  have left : (time.hour * 60 + time.minute) % 60 = time.minute := by omega
  simp only [ofLocal?, shown, before, after, minutes, hours, left, if_false, valid, and_self,
    dif_pos]

/-- A timestamp is read back from its text, leap seconds and signed years included. -/
theorem read_write {time : Timestamp} (inRange : yearInRange time.date.year = true) :
    read (write time) = some time := by
  have valid := time.valid
  have date := time.date.valid
  have ends : ∀ rest, Decimal.EndsDigits ('-' :: rest) := Decimal.endsDigits_cons (by decide)
  have days := daysInMonth_le time.date.year time.date.month
  have clock := scanNumber_padded (show 0 < 2 by decide) (show time.hour < 100 by omega)
  have dateEnd : isDateEnd 'T' = true := by decide
  have zone : scanZone (trimLeft ['Z']) = some (0, []) := by decide
  simp only [read, write, List.append_assoc, List.cons_append, scanYear_writeYear _ (ends _),
    scanPart_padded (show isBlank '-' = false by decide) (show time.date.month < 100 by omega),
    scanPart_padded (show isBlank '-' = false by decide) (show time.date.day < 100 by omega),
    dateEnd, trimLeft_padded, clock,
    scanPart_padded (show isBlank ':' = false by decide) (show time.minute < 100 by omega),
    scanPart_padded (show isBlank ':' = false by decide) (show time.second < 100 by omega),
    scanFraction_writeFraction valid.2.2.2, zone, Option.bind_eq_bind, Option.bind_some, if_true,
    Date.ofCivil?_self, ofLocal?_self, inRange]
  rfl

end Switchboard.Timestamp
