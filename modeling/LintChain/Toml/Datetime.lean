/-!
Dates, times of day, and dates with a time: how they are read, what is wrong with one that cannot
be read, and the one spelling in which they are written. Seconds may be left out; fractions of a
second count up to the ninth digit.
-/

namespace LintChain.Toml

structure Date where
  year : Nat
  month : Nat
  day : Nat

structure TimeOfDay where
  hour : Nat
  minute : Nat
  second : Nat
  nanosecond : Nat

/-- The distance of a local time from universal time. -/
inductive Offset
  | universal
  | minutes (n : Int)

structure Datetime where
  date : Option Date
  time : Option TimeOfDay
  offset : Option Offset

/-- What a text was taken for when it turned out to be wrong, and what should have stood there. -/
structure DatetimeError where
  subject : String
  expected : Option String

namespace DatetimeError

def message (e : DatetimeError) : String :=
  "invalid " ++ e.subject ++
    match e.expected with
    | some expected => ", expected " ++ expected
    | none => ""

def inAny (expected : String) : DatetimeError := ⟨"datetime", some expected⟩

def inDate (expected : String) : DatetimeError := ⟨"date", some expected⟩

def inTime (expected : String) : DatetimeError := ⟨"time", some expected⟩

def inOffset (expected : String) : DatetimeError := ⟨"offset", some expected⟩

def trailing : DatetimeError := ⟨"datetime", none⟩

end DatetimeError

namespace Datetime

/-- A run of digits at the head of the text. -/
def digitRun (otherwise : DatetimeError) (cs : List Char) :
    Except DatetimeError (List Char × List Char) :=
  match cs.takeWhile Char.isDigit with
  | [] => .error otherwise
  | ds => .ok (ds, cs.drop ds.length)

def mark (c : Char) (otherwise : DatetimeError) (cs : List Char) :
    Except DatetimeError (List Char) :=
  match cs with
  | d :: rest => if c = d then .ok rest else .error otherwise
  | [] => .error otherwise

def require (p : Prop) [Decidable p] (otherwise : DatetimeError) : Except DatetimeError Unit :=
  if p then .ok () else .error otherwise

def numberOf (ds : List Char) : Nat := ds.foldl (fun n c => n * 10 + (c.toNat - 48)) 0

def isLeapYear (year : Nat) : Bool := year % 4 == 0 && (year % 100 != 0 || year % 400 == 0)

def daysIn (year month : Nat) : Nat :=
  if month = 2 then (if isLeapYear year then 29 else 28)
  else if [4, 6, 9, 11].contains month then 30
  else 31

/-- The rest of a date, after the digits of its year and the dash. -/
def takeDate (year cs : List Char) : Except DatetimeError (Date × List Char) := do
  let (month, cs) ← digitRun (.inDate "month") cs
  let cs ← mark '-' (.inDate "`-` (MM-DD)") cs
  let (day, cs) ← digitRun (.inDate "day") cs
  require (year.length = 4) (.inDate "a four-digit year (YYYY)")
  require (month.length = 2) (.inDate "a two-digit month (MM)")
  require (day.length = 2) (.inDate "a two-digit day (DD)")
  let date : Date := ⟨numberOf year, numberOf month, numberOf day⟩
  require (1 ≤ date.month ∧ date.month ≤ 12) (.inDate "month between 01 and 12")
  let last := daysIn date.year date.month
  require (1 ≤ date.day ∧ date.day ≤ last) (.inDate ("day between 01 and " ++ toString last))
  return (date, cs)

/-- Digits after the point, as billionths; those after the ninth do not count. -/
def billionths (ds : List Char) : Nat :=
  let nine := ds.take 9
  numberOf (nine ++ List.replicate (9 - nine.length) '0')

/-- What follows the minutes of a time: the digits of its seconds and of their fraction. -/
def takeSeconds (cs : List Char) :
    Except DatetimeError (Option (List Char) × List Char × List Char) :=
  match cs with
  | ':' :: cs => do
    let (second, cs) ← digitRun (.inTime "second") cs
    match cs with
    | '.' :: cs =>
      let (fraction, cs) ← digitRun (.inTime "nanosecond") cs
      return (some second, fraction, cs)
    | cs => return (some second, [], cs)
  | cs => return (none, [], cs)

def takeTime (cs : List Char) : Except DatetimeError (TimeOfDay × List Char) := do
  let (hour, cs) ← digitRun (.inTime "hour") cs
  let cs ← mark ':' (.inTime "`:` (HH:MM)") cs
  let (minute, cs) ← digitRun (.inTime "minute") cs
  let (second, fraction, cs) ← takeSeconds cs
  require (hour.length = 2) (.inTime "a two-digit hour (HH)")
  require (minute.length = 2) (.inTime "a two-digit minute (MM)")
  require ((second.map List.length).getD 2 = 2) (.inTime "a two-digit second (SS)")
  let time : TimeOfDay :=
    ⟨numberOf hour, numberOf minute, numberOf (second.getD []), billionths fraction⟩
  require (time.hour ≤ 23) (.inTime "hour between 00 and 23")
  require (time.minute ≤ 59) (.inTime "minute between 00 and 59")
  require (time.second ≤ 60) (.inTime "second between 00 and 60")
  return (time, cs)

/-- The rest of an offset, after its sign. -/
def takeMinutes (sign : Int) (cs : List Char) : Except DatetimeError (Offset × List Char) := do
  let (hours, cs) ← digitRun (.inOffset "hour") cs
  let cs ← mark ':' (.inOffset "`:` (HH:MM)") cs
  let (minutes, cs) ← digitRun (.inOffset "minute") cs
  require (hours.length = 2) (.inOffset "a two-digit hour (HH)")
  require (minutes.length = 2) (.inOffset "a two-digit minute (MM)")
  require (numberOf hours ≤ 23) (.inOffset "hours between 00 and 23")
  require (numberOf minutes ≤ 59) (.inOffset "minutes between 00 and 59")
  return (.minutes (sign * (numberOf hours * 60 + numberOf minutes)), cs)

def takeOffset (cs : List Char) : Except DatetimeError (Option Offset × List Char) :=
  match cs with
  | [] => .ok (none, [])
  | 'Z' :: rest => .ok (some .universal, rest)
  | 'z' :: rest => .ok (some .universal, rest)
  | '+' :: rest => (takeMinutes 1 rest).map fun (offset, rest) => (some offset, rest)
  | '-' :: rest => (takeMinutes (-1) rest).map fun (offset, rest) => (some offset, rest)
  | _ => .error (.inOffset "`Z`, +OFFSET, -OFFSET")

def isDivider (c : Char) : Bool := c == 'T' || c == 't' || c == ' '

/-- What follows a date: nothing, or a time and perhaps an offset. -/
def takeRest (date : Date) (cs : List Char) : Except DatetimeError (Datetime × List Char) :=
  match cs with
  | [] => .ok (⟨some date, none, none⟩, [])
  | c :: cs =>
    if isDivider c then do
      let (time, cs) ← takeTime cs
      let (offset, cs) ← takeOffset cs
      return (⟨some date, some time, offset⟩, cs)
    else .error ⟨"date-time", some "`T` between date and time"⟩

def parse (cs : List Char) : Except DatetimeError Datetime := do
  let (first, rest) ← digitRun (.inAny "year or hour") cs
  let (found, rest) ← match rest with
    | '-' :: rest => do
      let (date, rest) ← takeDate first rest
      takeRest date rest
    | ':' :: _ => (takeTime cs).map fun (time, rest) => (⟨none, some time, none⟩, rest)
    | _ => .error (.inAny "`-` (YYYY-MM) or `:` (HH:MM)")
  require (rest = []) .trailing
  return found

/-- Whether the text is a date and nothing else. -/
def isDate (cs : List Char) : Bool :=
  match parse cs with
  | .ok ⟨some _, none, _⟩ => true
  | _ => false

/-! ### Writing -/

def padded (width n : Nat) : String :=
  let cs := (toString n).toList
  String.ofList (List.replicate (width - cs.length) '0' ++ cs)

def dateText (d : Date) : String :=
  padded 4 d.year ++ "-" ++ padded 2 d.month ++ "-" ++ padded 2 d.day

/-- A fraction of a second without the zeros at its end, and nothing for a whole second. -/
def fractionText (nanosecond : Nat) : String :=
  if nanosecond = 0 then ""
  else "." ++ String.ofList ((padded 9 nanosecond).toList.reverse.dropWhile (· = '0')).reverse

def timeText (t : TimeOfDay) : String :=
  padded 2 t.hour ++ ":" ++ padded 2 t.minute ++ ":" ++ padded 2 t.second ++
    fractionText t.nanosecond

def offsetText : Offset → String
  | .universal => "Z"
  | .minutes n =>
    (if n < 0 then "-" else "+") ++ padded 2 (n.natAbs / 60) ++ ":" ++ padded 2 (n.natAbs % 60)

/-- A letter `T` stands between date and time. -/
def text (d : Datetime) : String :=
  let time := ((d.time.map timeText).getD "") ++ ((d.offset.map offsetText).getD "")
  match d.date, d.time with
  | some date, some _ => dateText date ++ "T" ++ time
  | some date, none => dateText date ++ time
  | none, _ => time

end Datetime

end LintChain.Toml
