import CodeMarkup.Datum
import CodeMarkup.Scanner

/-!
# Dates and times in TOML

A date, a time, or a date with a time that may say how far it is from universal time.
They are read to be kept as a text of one form (`CodeMarkup.Toml.dateTime?`): the time
stands behind a capital letter, and has no more than nine digits behind the point of
its seconds, the last of which is no zero.

As a datum it is a table with one entry, under a key that nothing else has.
-/

namespace CodeMarkup.Toml

/-- A number of two digits between two others. -/
def twoDigits? (least greatest : Nat) : Scanner Text
  | a :: b :: t =>
    let n := Nat.ofDigitChars 10 [a, b] 0
    if a.isDigit ∧ b.isDigit ∧ least ≤ n ∧ n ≤ greatest then some ([a, b], t) else none
  | _ => none

/-- The number of days of a month. -/
def daysIn (year month : Nat) : Nat :=
  if month = 2 then
    if year % 4 = 0 ∧ (year % 100 ≠ 0 ∨ year % 400 = 0) then 29 else 28
  else if month = 4 ∨ month = 6 ∨ month = 9 ∨ month = 11 then 30
  else 31

/-- A date: a year of four digits, a month and a day of it. -/
def date? : Scanner Text
  | a :: b :: c :: d :: '-' :: t =>
    if [a, b, c, d].all Char.isDigit then
      match twoDigits? 1 12 t with
      | some (month, '-' :: t) =>
        let year := [a, b, c, d]
        let days := daysIn (Nat.ofDigitChars 10 year 0) (Nat.ofDigitChars 10 month 0)
        (twoDigits? 1 days t).map fun (day, r) => (year ++ ['-'] ++ month ++ ['-'] ++ day, r)
      | _ => none
    else none
  | _ => none

/-- Digits as they are kept behind the point of the seconds, with the point. -/
def keepFraction (digits : Text) : Text :=
  match ((digits.take 9).reverse.dropWhile (· = '0')).reverse with
  | [] => []
  | ds => '.' :: ds

/-- A time: hours, minutes, seconds, and a fraction of the seconds. -/
def time? : Scanner Text := fun t =>
  match twoDigits? 0 23 t with
  | some (hour, ':' :: t) =>
    match twoDigits? 0 59 t with
    | some (minute, ':' :: t) =>
      match twoDigits? 0 60 t with
      | some (second, t) =>
        let whole := hour ++ [':'] ++ minute ++ [':'] ++ second
        match t with
        | '.' :: t =>
          match Scanner.chars Char.isDigit t with
          | ([], _) => none
          | (ds, r) => some (whole ++ keepFraction ds, r)
        | t => some (whole, t)
      | none => none
    | _ => none
  | _ => none

/-- The distance from universal time, if it is said. -/
def offset? : Scanner Text
  | [] => some ([], [])
  | c :: t =>
    if c = 'Z' ∨ c = 'z' then some (['Z'], t)
    else if c = '+' ∨ c = '-' then
      match twoDigits? 0 23 t with
      | some (hours, ':' :: t) =>
        (twoDigits? 0 59 t).map fun (minutes, r) =>
          let distance := hours ++ [':'] ++ minutes
          ((if distance = ['0', '0', ':', '0', '0'] then '+' else c) :: distance, r)
      | _ => none
    else some ([], c :: t)

/-- The time behind a date, if there is one. -/
def timeOfDate? : Scanner Text
  | [] => some ([], [])
  | c :: t =>
    if c = 'T' ∨ c = 't' ∨ c = ' ' then
      match time? t with
      | some (time, r) => (offset? r).map fun (offset, r) => ('T' :: time ++ offset, r)
      | none => some ([], c :: t)
    else some ([], c :: t)

/-- A date, a time, or both. -/
def dateTime? : Scanner Text := fun t =>
  match date? t with
  | some (date, r) => (timeOfDate? r).map fun (time, r) => (date ++ time, r)
  | none => time? t

/-- The key under which a date or a time stands in the table that it is. -/
def dateTimeKey : String := "$__toml_private_datetime"

/-- A date or a time as a datum. -/
def ofDateTime (t : Text) : Datum := .table [(dateTimeKey, .string (String.ofList t))]

end CodeMarkup.Toml
