import Mathlib.Algebra.Group.Nat.Defs
import Mathlib.Data.List.TakeWhile
import Mathlib.Tactic.SplitIfs
import RouterOperator.Timestamp

/-!
# Reading a written timestamp

Numbers are written with a fixed number of digits, so what stands in a timestamp can be read off
again place by place. A timestamp of a year with four digits reads back as itself.
-/

namespace RouterOperator

namespace Text

variable {width n : Nat} {rest : List Char}

theorem isDigit_of_mem_padded {c : Char} (h : c ∈ padded width n) : c.isDigit = true := by
  rw [padded, List.mem_append, List.mem_replicate] at h
  rcases h with ⟨-, rfl⟩ | hdigit
  · rfl
  · exact Nat.isDigit_of_mem_toDigits (by decide) (by decide)
      (Nat.toList_repr ▸ (hdigit : c ∈ n.repr.toList))

theorem length_padded (hpos : 0 < width) (h : n < 10 ^ width) :
    (padded width n).length = width := by
  have hlength : (toString n).toList.length ≤ width := by
    change n.repr.toList.length ≤ width
    rw [Nat.toList_repr]
    exact (Nat.length_toDigits_le_iff (by decide) hpos).mpr h
  rw [padded, List.length_append, List.length_replicate, Nat.sub_add_cancel hlength]

theorem digitsValue_padded : digitsValue (padded width n) = n := by
  change Nat.ofDigitChars 10 (List.replicate _ '0' ++ n.repr.toList) 0 = n
  rw [Nat.ofDigitChars_append, Nat.ofDigitChars_replicate_zero, Nat.mul_zero, Nat.toList_repr,
    Nat.ofDigitChars_ten_toDigits]

/-- A padded number is read up to where it ends. -/
theorem digits?_padded (hpos : 0 < width) (h : n < 10 ^ width) :
    digits? width (padded width n ++ rest) = some (n, rest) := by
  have hlength := length_padded hpos h
  have htake : (padded width n ++ rest).take width = padded width n := by
    rw [List.take_append_of_le_length (Nat.le_of_eq hlength.symm), List.take_of_length_le
      (Nat.le_of_eq hlength)]
  have hdigits : (padded width n).takeWhile Char.isDigit = padded width n :=
    List.takeWhile_eq_self_iff.mpr fun c hc => isDigit_of_mem_padded hc
  have hnonempty : (padded width n).isEmpty = false := by
    rw [List.isEmpty_eq_false_iff, ← List.length_pos_iff, hlength]
    exact hpos
  rw [digits?, htake, hdigits, hnonempty, digitsValue_padded, List.drop_left]
  rfl

theorem isBlank_of_isDigit {c : Char} (h : c.isDigit = true) : isBlank c = false := by
  have hrange : 48 ≤ c.toNat ∧ c.toNat ≤ 57 := by
    simpa [Char.isDigit, UInt32.le_iff_toNat_le] using h
  simp only [isBlank]
  grind

/-- A padded number starts with a digit. -/
theorem exists_padded (hpos : 0 < width) (h : n < 10 ^ width) :
    ∃ c digits, padded width n = c :: digits ∧ c.isDigit = true := by
  have hne : padded width n ≠ [] := by
    rw [← List.length_pos_iff, length_padded hpos h]
    exact hpos
  obtain ⟨c, digits, hpadded⟩ := List.exists_cons_of_ne_nil hne
  exact ⟨c, digits, hpadded, isDigit_of_mem_padded (hpadded ▸ List.mem_cons_self)⟩

/-- No blanks stand in front of a number. -/
theorem trimStart_padded (hpos : 0 < width) (h : n < 10 ^ width) :
    trimStart (padded width n ++ rest) = padded width n ++ rest := by
  obtain ⟨c, digits, hpadded, hdigit⟩ := exists_padded hpos h
  rw [hpadded, trimStart, List.cons_append, List.dropWhile_cons_of_neg]
  simp [isBlank_of_isDigit hdigit]

end Text

namespace Timestamp

open Text

/-- The year has four digits. -/
def FourDigit (time : Timestamp) : Prop := 0 ≤ time.year ∧ time.year ≤ 9999

theorem daysInMonth_le (year : Int) (month : Nat) : daysInMonth year month ≤ 31 := by
  unfold daysInMonth
  split_ifs <;> decide

theorem month_le_of_day {year : Int} {month day : Nat}
    (h : 1 ≤ day ∧ day ≤ daysInMonth year month) : month ≤ 12 := by
  by_contra hmonth
  have hnone : daysInMonth year month = 0 := by
    unfold daysInMonth
    rw [if_neg (by omega), if_neg (by omega), if_neg (by omega)]
  omega

theorem year?_padded {n : Nat} (h : n < 10 ^ 4) {rest : List Char} :
    year? (padded 4 n ++ rest) = some ((n : Int), rest) := by
  -- a sign would be read first, so the first character has to be known
  obtain ⟨c, digits, hpadded, hdigit⟩ := exists_padded (by decide) h
  have hread : digits? 4 (padded 4 n ++ rest) = some (n, rest) := digits?_padded (by decide) h
  rw [hpadded, List.cons_append] at hread ⊢
  unfold year?
  split
  next heq =>
    cases heq
    cases hdigit
  next heq =>
    cases heq
    cases hdigit
  next =>
    rw [hread]
    rfl

theorem ofLocal?_zero (clock : Timestamp) : ofLocal? clock 0 = some clock := by
  obtain ⟨year, month, day, hour, minute, second, civil⟩ := clock
  obtain ⟨-, -, hhour, hminute, -⟩ := id civil
  -- without an offset the minute of the day stays within the day
  have htotal : (60 * (hour : Int) + minute) - 0 = ((60 * hour + minute : Nat) : Int) := by
    push_cast
    omega
  have hinDay : (((60 * hour + minute : Nat) : Int) % 1440).toNat = 60 * hour + minute := by
    omega
  unfold ofLocal?
  dsimp only
  rw [htotal, hinDay, if_neg (by omega), if_pos (by omega)]
  have hhour : (60 * hour + minute) / 60 = hour := by omega
  have hminute : (60 * hour + minute) % 60 = minute := by omega
  rw [hhour, hminute]
  exact dif_pos civil

/-- A timestamp of a year with four digits reads back as itself. -/
theorem parse?_toText {time : Timestamp} (h : time.FourDigit) :
    parse? time.toText = some time := by
  obtain ⟨year, month, day, hour, minute, second, civil⟩ := time
  obtain ⟨-, hday, hhour, hminute, hsecond⟩ := id civil
  have hmonth := month_le_of_day hday
  have hdays := daysInMonth_le year month
  obtain ⟨hzero, hlast⟩ : 0 ≤ year ∧ year ≤ 9999 := h
  obtain ⟨n, rfl⟩ := Int.eq_ofNat_of_zero_le hzero
  have hyear : n < 10 ^ 4 := by omega
  have hyearText : yearText n = padded 4 n := if_pos ⟨hzero, hlast⟩
  -- each step of the reader meets the piece that was written in its place
  have hstart (rest : List Char) :
      year? (trimStart (padded 4 n ++ rest)) = some ((n : Int), rest) := by
    rw [trimStart_padded (by decide) hyear, year?_padded hyear]
  have hplace {place : Nat} (hplace : place < 100) (rest : List Char) :
      digits? 2 (trimStart (padded 2 place ++ rest)) = some (place, rest) := by
    rw [trimStart_padded (by decide) hplace, digits?_padded (by decide) hplace]
  have hdash (rest : List Char) : literal? '-' (trimStart ('-' :: rest)) = some rest := rfl
  have hcolon (rest : List Char) : literal? ':' (trimStart (':' :: rest)) = some rest := rfl
  have hletter (rest : List Char) : (literal? 'T' ('T' :: rest) <|> literal? 't' ('T' :: rest) <|>
    literal? ' ' ('T' :: rest)) = some rest := rfl
  have hfraction : afterFraction? ['Z'] = some ['Z'] := rfl
  have hoffset : offset? (trimStart ['Z']) = some (0, []) := rfl
  have hend : (trimStart []).isEmpty = true := rfl
  have hclock : ofFields? n month day hour minute second =
    some ⟨n, month, day, hour, minute, second, civil⟩ := dif_pos civil
  unfold parse? toText
  dsimp only
  rw [String.toList_ofList, hyearText]
  simp only [List.append_assoc, List.cons_append, Option.bind_eq_bind, Option.bind_some, hstart,
    hplace (show month < 100 by omega), hplace (show day < 100 by omega),
    hplace (show hour < 100 by omega), hplace (show minute < 100 by omega),
    hplace (show second < 100 by omega), hdash, hcolon, hletter, hfraction, hoffset, hclock]
  rw [if_pos hend, ofLocal?_zero]

end Timestamp

end RouterOperator
