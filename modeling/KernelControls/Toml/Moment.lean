import KernelControls.Decimal

/-!
# Dates and times in TOML

A moment is a date, a time, or both, and with both there may be an offset from universal
time.  It has one standard text: a capital `T` between date and time, a capital `Z`, and at
most nine digits after the seconds, without zeros at the end.
-/

namespace KernelControls.Toml

/-! ## Parts -/

/-- A day of the calendar. -/
structure Date where
  year : Nat
  month : Nat
  day : Nat
  deriving DecidableEq, Repr

/-- A time of day; a second may be a leap second. -/
structure Time where
  hour : Nat
  minute : Nat
  second : Nat
  nanosecond : Nat
  deriving DecidableEq, Repr

/-- The distance from universal time. -/
inductive Offset where
  | universal
  | minutes (behind : Bool) (count : Nat)
  deriving DecidableEq, Repr

/-- The days of a month. -/
def daysOf (year month : Nat) : Nat :=
  if month == 2 then
    if year % 4 == 0 && (year % 100 != 0 || year % 400 == 0) then 29 else 28
  else if month == 4 || month == 6 || month == 9 || month == 11 then 30
  else 31

/-! ## Reading -/

/-- Read a number of exactly the given count of digits, between two limits. -/
def readCount (digits low high : Nat) (characters : List Char) : Option (Nat × List Char) := do
  let taken := characters.take digits
  if taken.length != digits then none
  else
    let number ← Decimal.readDigits? taken
    if low ≤ number && number ≤ high then some (number, characters.drop digits) else none

/-- Strip one character from the front. -/
def readMark (mark : Char) : List Char → Option (List Char)
  | character :: rest => if character = mark then some rest else none
  | [] => none

/-- Read a date. -/
def readDate (characters : List Char) : Option (Date × List Char) := do
  let (year, rest) ← readCount 4 0 9999 characters
  let (month, rest) ← readCount 2 1 12 (← readMark '-' rest)
  let (day, rest) ← readCount 2 1 (daysOf year month) (← readMark '-' rest)
  some (⟨year, month, day⟩, rest)

/-- The nanoseconds that the digits after the point stand for; digits beyond the ninth are
dropped. -/
def nanoseconds (digits : List Char) : Nat :=
  Nat.ofDigitChars 10 ((digits ++ List.replicate 9 '0').take 9) 0

/-- Read a time with an hour up to the given one. -/
def readTime (lastHour : Nat) (characters : List Char) : Option (Time × List Char) := do
  let (hour, rest) ← readCount 2 0 lastHour characters
  let (minute, rest) ← readCount 2 0 59 (← readMark ':' rest)
  let (second, rest) ← readCount 2 0 60 (← readMark ':' rest)
  match rest with
  | '.' :: decimals =>
    let digits := decimals.takeWhile Char.isDigit
    if digits.isEmpty then some (⟨hour, minute, second, 0⟩, rest)
    else some (⟨hour, minute, second, nanoseconds digits⟩, decimals.dropWhile Char.isDigit)
  | rest => some (⟨hour, minute, second, 0⟩, rest)

/-- The minutes of a day; no offset is larger. -/
def dayMinutes : Nat := 1440

/-- Read an offset, if there is one, with hours and minutes up to the given ones. -/
def readOffset (lastHour lastMinute : Nat) (characters : List Char) :
    Option (Option Offset × List Char) := do
  let numeric (behind : Bool) (rest : List Char) : Option (Option Offset × List Char) := do
    let (hours, rest) ← readCount 2 0 lastHour rest
    let (minutes, rest) ← readCount 2 0 lastMinute (← readMark ':' rest)
    let count := 60 * hours + minutes
    if count ≤ dayMinutes then some (some (.minutes behind count), rest) else none
  match characters with
  | 'Z' :: rest => some (some .universal, rest)
  | 'z' :: rest => some (some .universal, rest)
  | '+' :: rest => numeric false rest
  | '-' :: rest => numeric true rest
  | rest => some (none, rest)

/-! ## Writing -/

/-- A number padded with zeros to the given width. -/
def padded (width number : Nat) : String :=
  let digits := Nat.toDigits 10 number
  String.ofList (List.replicate (width - digits.length) '0' ++ digits)

/-- The text of a date. -/
def Date.text (date : Date) : String :=
  padded 4 date.year ++ "-" ++ padded 2 date.month ++ "-" ++ padded 2 date.day

/-- The text of a time. -/
def Time.text (time : Time) : String :=
  let decimals :=
    if time.nanosecond == 0 then ""
    else
      let digits := (padded 9 time.nanosecond).toList
      "." ++ String.ofList (digits.reverse.dropWhile (· == '0')).reverse
  padded 2 time.hour ++ ":" ++ padded 2 time.minute ++ ":" ++ padded 2 time.second ++ decimals

/-- The text of an offset. -/
def Offset.text : Offset → String
  | universal => "Z"
  | minutes behind count =>
    let sign := if behind && count != 0 then "-" else "+"
    sign ++ padded 2 (count / 60) ++ ":" ++ padded 2 (count % 60)

/-- The text of a date and a time. -/
def joined (date : Date) (time : Time) (offset : Option Offset) : String :=
  date.text ++ "T" ++ time.text ++ (offset.map Offset.text).getD ""

/-! ## Moments -/

/-- Whether a character may stand between date and time. -/
def isSeparator (character : Char) : Bool :=
  character == 'T' || character == 't' || character == ' '

/-- Read a moment and give its standard text.  A blank may stand between date and time; if no
time follows it, the moment ends before the blank. -/
def readMoment (characters : List Char) : Option (String × List Char) :=
  match readDate characters with
  | some (date, rest) =>
    let timed : Option (String × List Char) := do
      let separator ← rest.head?
      if !isSeparator separator then none
      else
        let (time, rest) ← readTime 23 (rest.drop 1)
        let (offset, rest) ← readOffset 23 59 rest
        some (joined date time offset, rest)
    some (timed.getD (date.text, rest))
  | none => (readTime 23 characters).map fun (time, rest) => (time.text, rest)

example : readMoment "1979-05-27 07:32:00.500z".toList = some ("1979-05-27T07:32:00.5Z", []) := by
  decide +kernel

end KernelControls.Toml
