import RouterOperator.Text.Blank
import RouterOperator.Text.Digits

/-!
# Points in time

A timestamp is a second of the proleptic Gregorian calendar in coordinated universal time. It is
read from a date, a time of day and an offset, and written as `2024-05-06T07:08:09Z`. A fraction of
a second is read and dropped; a leap second keeps its number 60.
-/

namespace RouterOperator

/-- Whether a year has a 29th of February. -/
def isLeapYear (year : Int) : Bool := year % 4 == 0 && (year % 100 != 0 || year % 400 == 0)

/-- The number of days of a month, counted from 1; no days for any other number. -/
def daysInMonth (year : Int) (month : Nat) : Nat :=
  if month = 2 then if isLeapYear year then 29 else 28
  else if month = 4 ∨ month = 6 ∨ month = 9 ∨ month = 11 then 30
  else if 1 ≤ month ∧ month ≤ 12 then 31
  else 0

/-- The fields of a timestamp name an existing second. -/
def IsCivil (year : Int) (month day hour minute second : Nat) : Prop :=
  (-262143 ≤ year ∧ year ≤ 262142) ∧ (1 ≤ day ∧ day ≤ daysInMonth year month) ∧
    hour < 24 ∧ minute < 60 ∧ second ≤ 60

instance (year : Int) (month day hour minute second : Nat) :
    Decidable (IsCivil year month day hour minute second) := by
  unfold IsCivil; infer_instance

/-- A second in coordinated universal time. -/
structure Timestamp where
  year : Int
  month : Nat
  day : Nat
  hour : Nat
  minute : Nat
  second : Nat
  civil : IsCivil year month day hour minute second
deriving DecidableEq

namespace Timestamp

instance : Inhabited Timestamp := ⟨1970, 1, 1, 0, 0, 0, by decide⟩

/-- The timestamp with these fields, if they name an existing second. -/
def ofFields? (year : Int) (month day hour minute second : Nat) : Option Timestamp :=
  if civil : IsCivil year month day hour minute second then
    some ⟨year, month, day, hour, minute, second, civil⟩
  else none

/-- The day after a date, as year, month and day. -/
def dayAfter (year : Int) (month day : Nat) : Int × Nat × Nat :=
  if day < daysInMonth year month then (year, month, day + 1)
  else if month < 12 then (year, month + 1, 1)
  else (year + 1, 1, 1)

/-- The day before a date, as year, month and day. -/
def dayBefore (year : Int) (month day : Nat) : Int × Nat × Nat :=
  if 1 < day then (year, month, day - 1)
  else if 1 < month then (year, month - 1, daysInMonth year (month - 1))
  else (year - 1, 12, 31)

/-- The second that a clock which runs `offset` minutes ahead calls by the fields of `clock`. -/
def ofLocal? (clock : Timestamp) (offset : Int) : Option Timestamp :=
  let total := (60 * clock.hour + clock.minute : Int) - offset
  let (year, month, day) :=
    if total < 0 then dayBefore clock.year clock.month clock.day
    else if total < 1440 then (clock.year, clock.month, clock.day)
    else dayAfter clock.year clock.month clock.day
  let inDay := (total % 1440).toNat
  ofFields? year month day (inDay / 60) (inDay % 60) clock.second

open Text

/-- Reads a year: four digits at most, or any number of them after a sign. -/
def year? : List Char → Option (Int × List Char)
  | '-' :: rest => (digits? rest.length rest).map fun (year, rest) => (-(year : Int), rest)
  | '+' :: rest => (digits? rest.length rest).map fun (year, rest) => ((year : Int), rest)
  | cs => (digits? 4 cs).map fun (year, rest) => ((year : Int), rest)

/-- Reads an offset in minutes: `Z`, `UTC`, or a sign with two digits each for hours and minutes. -/
def offset? (cs : List Char) : Option (Int × List Char) :=
  match cs with
  | 'Z' :: rest | 'z' :: rest => some (0, rest)
  | c :: rest =>
    if (cs.take 3).map Char.toUpper = ['U', 'T', 'C'] then some (0, cs.drop 3)
    else if c = '+' ∨ c = '-' ∨ c = '\u2212' then
      match rest with
      | h₁ :: h₂ :: rest =>
        match rest.dropWhile fun c => c = ':' || isBlank c with
        | m₁ :: m₂ :: rest =>
          if [h₁, h₂, m₁, m₂].all Char.isDigit then
            let hours := digitsValue [h₁, h₂]
            let minutes := digitsValue [m₁, m₂]
            if hours < 24 ∧ minutes < 60 then
              let total : Int := 60 * hours + minutes
              some (if c = '+' then total else -total, rest)
            else none
          else none
        | _ => none
      | _ => none
    else none
  | [] => none

/-- Reads past a fraction of a second, if there is one. -/
def afterFraction? : List Char → Option (List Char)
  | '.' :: rest => (digits? rest.length rest).map Prod.snd
  | cs => some cs

/-- The timestamp that a text stands for. Blanks may stand between its parts. -/
def parse? (text : String) : Option Timestamp := do
  let (year, cs) ← year? (trimStart text.toList)
  let cs ← literal? '-' (trimStart cs)
  let (month, cs) ← digits? 2 (trimStart cs)
  let cs ← literal? '-' (trimStart cs)
  let (day, cs) ← digits? 2 (trimStart cs)
  let cs ← literal? 'T' cs <|> literal? 't' cs <|> literal? ' ' cs
  let (hour, cs) ← digits? 2 (trimStart cs)
  let cs ← literal? ':' (trimStart cs)
  let (minute, cs) ← digits? 2 (trimStart cs)
  let cs ← literal? ':' (trimStart cs)
  let (second, cs) ← digits? 2 (trimStart cs)
  let cs ← afterFraction? cs
  let (offset, cs) ← offset? (trimStart cs)
  if (trimStart cs).isEmpty then
    let clock ← ofFields? year month day hour minute second
    ofLocal? clock offset
  else none

/-- A year of four digits; a sign precedes one before the year 0 or after 9999. -/
def yearText (year : Int) : List Char :=
  if 0 ≤ year ∧ year ≤ 9999 then padded 4 year.toNat
  else (if year < 0 then '-' else '+') :: padded 4 year.natAbs

/-- The text of a timestamp. -/
def toText (t : Timestamp) : String :=
  String.ofList <|
    yearText t.year ++ '-' :: padded 2 t.month ++ '-' :: padded 2 t.day ++
      'T' :: padded 2 t.hour ++ ':' :: padded 2 t.minute ++ ':' :: padded 2 t.second ++ ['Z']

end Timestamp

end RouterOperator
