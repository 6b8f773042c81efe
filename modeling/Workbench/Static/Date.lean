import Workbench.Text.Blank
import Workbench.Text.Number

set_option autoImplicit false

namespace Workbench.Date

structure Civil where
  year : Nat
  month : Nat
  day : Nat
  hour : Nat
  minute : Nat
  second : Nat
  -- Monday is 1.
  weekday : Nat
  deriving DecidableEq, Repr

def months : List (List Char) :=
  ["Jan", "Feb", "Mar", "Apr", "May", "Jun", "Jul", "Aug", "Sep", "Oct", "Nov", "Dec"].map
    (·.toList)

def weekdays : List (List Char) :=
  ["Monday", "Tuesday", "Wednesday", "Thursday", "Friday", "Saturday", "Sunday"].map (·.toList)

def isLeap (year : Nat) : Bool :=
  year % 4 = 0 && (year % 100 ≠ 0 || year % 400 = 0)

def monthLength (year month : Nat) : Nat :=
  if month = 2 then (if isLeap year then 29 else 28)
  else if [4, 6, 9, 11].contains month then 30 else 31

def daysBeforeYear (year : Nat) : Nat :=
  let past := year - 1
  (year - 1970) * 365 + (past / 4 - 492) - (past / 100 - 19) + (past / 400 - 4)

def Civil.days (date : Civil) : Nat :=
  let before := (List.range (date.month - 1)).map fun month => monthLength date.year (month + 1)
  daysBeforeYear date.year + before.foldl (· + ·) 0 + (date.day - 1)

def Civil.seconds (date : Civil) : Nat :=
  ((date.days * 24 + date.hour) * 60 + date.minute) * 60 + date.second

def Civil.valid (date : Civil) : Bool :=
  1970 ≤ date.year && date.year ≤ 9999 && 1 ≤ date.month && date.month ≤ 12 &&
    1 ≤ date.day && date.day ≤ monthLength date.year date.month &&
    date.hour < 24 && date.minute < 60 && date.second < 60 &&
    date.weekday = (date.days + 3) % 7 + 1

def ordinal? (names : List (List Char)) (name : List Char) : Option Nat :=
  let index := names.idxOf name
  if index < names.length then some (index + 1) else none

def shortWeekdays : List (List Char) := weekdays.map (·.take 3)

def time? (text : List Char) : Option (Nat × Nat × Nat) :=
  match (Text.splitOn ':' text) with
  | [hour, minute, second] =>
      if [hour, minute, second].all (·.length = 2) then do
        pure (← Text.number? 10 hour, ← Text.number? 10 minute, ← Text.number? 10 second)
      else none
  | _ => none

def ofLength? (length : Nat) (text : List Char) : Option Nat :=
  if text.length = length then Text.number? 10 text else none

-- `Sun, 06 Nov 1994 08:49:37 GMT`
def standard? (text : List Char) : Option Civil :=
  match Text.splitOn ' ' text with
  | [weekday, day, month, year, time, zone] => do
      if zone ≠ "GMT".toList then none
      let weekday ← ordinal? (shortWeekdays.map (· ++ [','])) weekday
      let (hour, minute, second) ← time? time
      pure {
        year := ← ofLength? 4 year
        month := ← ordinal? months month
        day := ← ofLength? 2 day
        hour, minute, second, weekday }
  | _ => none

def fullYear (year : Nat) : Nat :=
  if year < 70 then 2000 + year else 1900 + year

-- `Sunday, 06-Nov-94 08:49:37 GMT`
def long? (text : List Char) : Option Civil :=
  match Text.splitOn ' ' text with
  | [weekday, date, time, zone] => do
      if zone ≠ "GMT".toList then none
      let weekday ← ordinal? (weekdays.map (· ++ [','])) weekday
      let (hour, minute, second) ← time? time
      match Text.splitOn '-' date with
      | [day, month, year] =>
          pure {
            year := fullYear (← ofLength? 2 year)
            month := ← ordinal? months month
            day := ← ofLength? 2 day
            hour, minute, second, weekday }
      | _ => none
  | _ => none

-- `Sun Nov  6 08:49:37 1994`
def plain? (text : List Char) : Option Civil := do
  let (weekday, month, day, time, year) ←
    match Text.splitOn ' ' text with
    | [weekday, month, [], day, time, year] =>
        if day.length = 1 then some (weekday, month, day, time, year) else none
    | [weekday, month, day, time, year] =>
        if day.length = 2 then some (weekday, month, day, time, year) else none
    | _ => none
  let (hour, minute, second) ← time? time
  pure {
    year := ← ofLength? 4 year
    month := ← ordinal? months month
    day := ← Text.number? 10 day
    hour, minute, second
    weekday := ← ordinal? shortWeekdays weekday }

def parse? (text : List Char) : Option Nat :=
  let text := Text.trim text
  match standard? text <|> long? text <|> plain? text with
  | some date => if date.valid then some date.seconds else none
  | none => none

end Workbench.Date
