import ModelSwitch.Lib.Calendar
import ModelSwitch.Lib.Fraction
import ModelSwitch.Lib.Json

/-!
# Start times

`_ISO_INSTANT` and `canonical_utc` of `process_observer.py`, for ASCII texts. What `fromisoformat`
and `astimezone` make of a text that the pattern accepts is a date and the microseconds of its day.
A year is printed as `%Y` prints it on Linux, without leading zeros.
-/

namespace ModelSwitch.StartTime

open Calendar Fraction

/-! ### The pattern -/

def digitOf (c : Char) : Option Digit :=
  if h : 48 ≤ c.toNat ∧ c.toNat ≤ 57 then some ⟨c.toNat - 48, by omega⟩ else none

/-- `\d{n}`, and the number it spells. -/
def number : ℕ → ℕ → List Char → Option (ℕ × List Char)
  | 0, acc, cs => some (acc, cs)
  | _ + 1, _, [] => none
  | n + 1, acc, c :: cs => do number n (acc * 10 + (← digitOf c).val) cs

def literal (c : Char) : List Char → Option (List Char)
  | [] => none
  | c' :: cs => if c' = c then some cs else none

/-- `\d*`. -/
def digits : List Char → List Digit × List Char
  | [] => ([], [])
  | c :: cs =>
    match digitOf c with
    | some d => (d :: (digits cs).1, (digits cs).2)
    | none => ([], c :: cs)

def optionalFraction : List Char → Option (List Digit × List Char)
  | '.' :: cs => if (digits cs).1 = [] then none else some (digits cs)
  | cs => some ([], cs)

/-- `Z`, or a sign, hours and minutes, in minutes. -/
def zone : List Char → Option ℤ
  | ['Z'] => some 0
  | sign :: cs => do
    let factor : ℤ ← if sign = '+' then some 1 else if sign = '-' then some (-1) else none
    let (hours, cs) ← number 2 0 cs
    let cs ← literal ':' cs
    let (minutes, cs) ← number 2 0 cs
    if cs = [] then some (factor * (hours * 60 + minutes)) else none
  | [] => none

/-- The groups of `_ISO_INSTANT`. -/
structure Match where
  year : ℕ
  month : ℕ
  day : ℕ
  hour : ℕ
  minute : ℕ
  second : ℕ
  fraction : List Digit
  offset : ℤ

def isoInstant (cs : List Char) : Option Match := do
  let (year, cs) ← number 4 0 cs
  let cs ← literal '-' cs
  let (month, cs) ← number 2 0 cs
  let cs ← literal '-' cs
  let (day, cs) ← number 2 0 cs
  let cs ← literal 'T' cs
  let (hour, cs) ← number 2 0 cs
  let cs ← literal ':' cs
  let (minute, cs) ← number 2 0 cs
  let cs ← literal ':' cs
  let (second, cs) ← number 2 0 cs
  let (fraction, cs) ← optionalFraction cs
  let offset ← zone cs
  some ⟨year, month, day, hour, minute, second, fraction, offset⟩

/-! ### Moments -/

def micro : ℕ := 1000000

def dayMicros : ℕ := 86400 * micro

/-- A date and a time of that day. -/
structure Moment where
  date : Date
  micros : ℕ
  micros_lt : micros < dayMicros

/-- `fraction[:6] or '0'` as microseconds. -/
def microsOf (ds : List Digit) : ℕ :=
  (List.range 6).foldl (fun acc i => acc * 10 + (ds.getD i 0).val) 0

def Match.seconds (m : Match) : ℕ := m.hour * 3600 + m.minute * 60 + m.second

/-- The fields that `fromisoformat` refuses, the date apart. -/
def Match.inRange (m : Match) : Bool :=
  m.hour ≤ 23 ∧ m.minute ≤ 59 ∧ m.second ≤ 59 ∧ -1440 < m.offset ∧ m.offset < 1440

def momentAt (date : Date) (micros : ℕ) : Option Moment :=
  if h : micros < dayMicros then some ⟨date, micros, h⟩ else none

/-- `datetime.fromisoformat`, with the fraction given. -/
def Match.moment (m : Match) (fraction : List Digit) : Option Moment := do
  let date ← Date.make m.year m.month m.day
  if m.inRange then momentAt date (m.seconds * micro + microsOf fraction) else none

/-- `astimezone(UTC)` of a moment with an offset in minutes. It leaves the range of dates with the
first or the last day. -/
def Moment.toUtc (t : Moment) (offset : ℤ) : Option Moment :=
  let shifted : ℤ := t.micros - offset * 60 * micro
  if shifted < 0 then do momentAt (← t.date.previous) (shifted + dayMicros).toNat
  else if shifted < dayMicros then momentAt t.date shifted.toNat
  else do momentAt (← t.date.next) (shifted - dayMicros).toNat

/-! ### The canonical text -/

def two (n : ℕ) : List Char := [(n / 10).digitChar, (n % 10).digitChar]

/-- `%Y`. -/
def yearText (y : ℕ) : List Char :=
  if y < 10 then [y.digitChar]
  else if y < 100 then two y
  else if y < 1000 then (y / 100).digitChar :: two (y % 100)
  else two (y / 100) ++ two (y % 100)

/-- `strftime('%Y-%m-%dT%H:%M:%S')`. -/
def Moment.text (t : Moment) : List Char :=
  let second := t.micros / micro
  yearText t.date.year ++ ['-'] ++ two t.date.month ++ ['-'] ++ two t.date.day ++ ['T'] ++
    two (second / 3600) ++ [':'] ++ two (second / 60 % 60) ++ [':'] ++ two (second % 60)

def fractionText (ds : List Digit) : List Char :=
  if ds = [] then [] else '.' :: ds.map fun d => d.val.digitChar

inductive Refusal
  /-- `ObservationError`. -/
  | invalid
  /-- `OverflowError`, of a moment that has no date in UTC. -/
  | overflow
  deriving DecidableEq

def canonicalUtc (value : String) : Except Refusal String :=
  match isoInstant (Py.strip value) with
  | none => .error .invalid
  | some m =>
    let fraction := trim m.fraction
    match m.moment fraction with
    | none => .error .invalid
    | some parsed =>
      match parsed.toUtc m.offset with
      | none => .error .overflow
      | some utc => .ok (String.ofList (utc.text ++ fractionText fraction ++ ['Z']))

end ModelSwitch.StartTime
