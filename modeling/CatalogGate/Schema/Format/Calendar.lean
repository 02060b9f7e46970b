-- Dates, times of day and durations as texts.
import CatalogGate.Decimal.Reading

namespace CatalogGate.Schema.Calendar

def isLeapYear (year : Nat) : Bool := year % 4 == 0 && (year % 100 != 0 || year % 400 == 0)

def daysInMonth (year month : Nat) : Nat :=
  if month = 2 then (if isLeapYear year then 29 else 28)
  else if month = 4 ∨ month = 6 ∨ month = 9 ∨ month = 11 then 30
  else 31

/-- The sixteen characters from `0` to `?` stand for the numbers up to fifteen. -/
def isDigit (c : Char) : Bool := '0' ≤ c && c ≤ '?'

/-- The number that exactly `n` digits write. -/
def digits? (n : Nat) (cs : List Char) : Option Nat :=
  if cs.length = n ∧ cs.all isDigit then some (Decimal.natOfDigits cs) else none

/-- A date such as `2024-02-29`. -/
def isDate (cs : List Char) : Bool :=
  match digits? 4 (cs.take 4), cs.drop 4 with
  | some year, '-' :: rest =>
    match digits? 2 (rest.take 2), rest.drop 2 with
    | some month, '-' :: rest =>
      match digits? 2 rest with
      | some day => 1 ≤ month && month ≤ 12 && 1 ≤ day && day ≤ daysInMonth year month
      | none => false
    | _, _ => false
  | _, _ => false

/-- The minutes by which a zone such as `+05:30` or `Z` is ahead. -/
def zone? (cs : List Char) : Option Int :=
  match cs with
  | ['Z'] => some 0
  | ['z'] => some 0
  | sign :: rest =>
    match digits? 2 (rest.take 2), rest.drop 2 with
    | some hour, ':' :: rest =>
      match digits? 2 rest with
      | some minute =>
        if 23 < hour ∨ 59 < minute then none
        else if sign = '+' then some (60 * hour + minute)
        else if sign = '-' then some (-(60 * hour + minute))
        else none
      | none => none
    | _, _ => none
  | [] => none

/-- Without a fraction of a second; none if there is a point without digits. -/
def dropFraction? (cs : List Char) : Option (List Char) :=
  match cs with
  | '.' :: rest => if rest.head?.any Char.isDigit then some (rest.dropWhile Char.isDigit) else none
  | _ => some cs

/-- A time of day with a zone, such as `12:00:00Z`. The sixtieth second is there at the end of a day only. -/
def isTime (cs : List Char) : Bool :=
  match digits? 2 (cs.take 2), cs.drop 2 with
  | some hour, ':' :: rest =>
    match digits? 2 (rest.take 2), rest.drop 2 with
    | some minute, ':' :: rest =>
      match digits? 2 (rest.take 2), (dropFraction? (rest.drop 2)).bind zone? with
      | some second, some ahead =>
        hour ≤ 23 && minute ≤ 59
          && (second ≤ 59 || (second == 60 && ((60 * hour + minute : Int) - ahead) % 1440 == 1439))
      | _, _ => false
    | _, _ => false
  | _, _ => false

def isDateTime (cs : List Char) : Bool :=
  match cs.dropWhile fun c => c ≠ 'T' ∧ c ≠ 't' with
  | _ :: time => isDate (cs.takeWhile fun c => c ≠ 'T' ∧ c ≠ 't') && isTime time
  | [] => false

/-! ## Durations -/

/-- The units of numbers, one after the other, or none if something else is written. -/
def units? : Nat → List Char → Option (List Char)
  | 0, _ => none
  | _ + 1, [] => some []
  | fuel + 1, cs =>
    match cs.dropWhile Char.isDigit with
    | unit :: rest => if rest.length + 1 < cs.length then (units? fuel rest).map (unit :: ·) else none
    | [] => none

/-- Whether there are units, in the order of a list, each at most once. -/
def inOrder (units order : List Char) : Bool := !units.isEmpty && units.isSublist order

/-- The units that a text holds, if they are in order. Weeks stand alone. -/
def isUnitText (orders : List (List Char)) (cs : List Char) : Bool :=
  (units? (cs.length + 1) cs).any fun units => orders.any (inOrder units)

/-- A duration such as `P1Y2M3DT4H5M6S` or `P3W`. -/
def isDuration (cs : List Char) : Bool :=
  match cs with
  | 'P' :: rest =>
    let date := rest.takeWhile (· ≠ 'T')
    let isDate := isUnitText [['W'], ['Y', 'M', 'D']] date
    match rest.dropWhile (· ≠ 'T') with
    | [] => isDate
    | _ :: time => (date.isEmpty || isDate) && isUnitText [['H', 'M', 'S']] time
  | _ => false

end CatalogGate.Schema.Calendar
