import CardReader.Toml.Value
import CardReader.Toml.Reader

/-!
# Dates and times

A date, a time of day, or a date followed by a time and perhaps an offset.  Days have to exist in
their month, and a minute may have a leap second.
-/

namespace CardReader.Toml.Reader

/-- Takes exactly `count` decimal digits. -/
def fixedDigits (count : Nat) : Reader Nat := fun input =>
  let digits := input.chars.take count
  if digits.length = count ∧ digits.all Char.isDigit then
    some (ofDigits 10 digits, input.drop count)
  else none

/-- Takes two digits with a value between two bounds. -/
def twoDigits (least greatest : Nat) : Reader Nat := do
  let value ← fixedDigits 2
  if least ≤ value ∧ value ≤ greatest then return value else failure

/-- Days in a month. -/
def daysIn (year month : Nat) : Nat :=
  if month = 2 then
    if year % 4 = 0 ∧ (year % 100 ≠ 0 ∨ year % 400 = 0) then 29 else 28
  else if month = 4 ∨ month = 6 ∨ month = 9 ∨ month = 11 then 30
  else 31

/-- A date. -/
def date : Reader Unit := do
  let year ← fixedDigits 4
  char '-'
  let month ← twoDigits 1 12
  char '-'
  let day ← twoDigits 1 31
  if daysIn year month < day then failure

/-- A time of day. -/
def timeOfDay : Reader Unit := do
  let _ ← twoDigits 0 23
  char ':'
  let _ ← twoDigits 0 59
  char ':'
  let _ ← twoDigits 0 60
  let _ ← optional (char '.' *> span1 Char.isDigit)

/-- An offset from universal time. -/
def offset : Reader Unit :=
  char 'Z' <|> char 'z' <|> do
    char '+' <|> char '-'
    let _ ← twoDigits 0 23
    char ':'
    let _ ← twoDigits 0 59

/-- The time that follows a date. -/
def timeAfterDate : Reader Unit := do
  char 'T' <|> char 't' <|> char ' '
  timeOfDay
  let _ ← optional offset

/-- A date, a time or both. -/
def datetime : Reader Value :=
  .datetime <$> taken ((do date; let _ ← optional timeAfterDate) <|> timeOfDay)

end CardReader.Toml.Reader
