import Emend.Toml.Value

/-!
# Scalars

Booleans, numbers and date-times: the values that are written without quotes or
brackets. `Value.ofScalar?` reads one from the whole of its text.

* Integers fit 64 bits with a sign.
* Floats have a value: one that is too large for 64 bits is refused.
* Date-times name days that exist; seconds may be left out.
-/

namespace Emend.Toml

/-! ## Digits -/

/-- The value of a digit in some base up to sixteen. -/
def digit? (base : Nat) (c : Char) : Option Nat :=
  let value :=
    if '0' ≤ c ∧ c ≤ '9' then some (c.toNat - 48)
    else if 'a' ≤ c ∧ c ≤ 'f' then some (c.toNat - 87)
    else if 'A' ≤ c ∧ c ≤ 'F' then some (c.toNat - 55)
    else none
  value.filter (· < base)

/-- The digits of a number in which single underscores may stand between digits. -/
def digitsOf? (base : Nat) : List Char → Option (List Nat)
  | [] => none
  | [c] => (digit? base c).map ([·])
  | c :: '_' :: cs => do return (← digit? base c) :: (← digitsOf? base cs)
  | c :: cs => do return (← digit? base c) :: (← digitsOf? base cs)

/-- The number that some digits write. -/
def ofDigits (base : Nat) (ds : List Nat) : Nat := ds.foldl (fun n d => base * n + d) 0

/-- The number that digits write, underscores between them allowed. -/
def natural? (base : Nat) (cs : List Char) : Option Nat := (digitsOf? base cs).map (ofDigits base)

/-- Digits without a zero at the front of others. -/
def plainDigits? (cs : List Char) : Option (List Nat) := do
  let ds ← digitsOf? 10 cs
  match ds with
  | 0 :: _ :: _ => none
  | _ => some ds

/-- A sign and what follows it; `true` is minus. -/
def signed : List Char → Bool × List Char
  | '-' :: cs => (true, cs)
  | '+' :: cs => (false, cs)
  | cs => (false, cs)

/-! ## Integers -/

/-- The base that a text announces, and what follows the announcement. -/
def announcedBase? : List Char → Option (Nat × List Char)
  | '0' :: 'x' :: cs => some (16, cs)
  | '0' :: 'o' :: cs => some (8, cs)
  | '0' :: 'b' :: cs => some (2, cs)
  | _ => none

/-- Does the number fit 64 bits with a sign? -/
def fitsInteger (n : Int) : Bool := Int64.minValue.toInt ≤ n && n ≤ Int64.maxValue.toInt

/-- The integer that a text writes. -/
def integer? (cs : List Char) : Option Int := do
  let n ← match announcedBase? cs with
    | some (base, ds) => (natural? base ds).map Int.ofNat
    | none =>
      let (minus, ds) := signed cs
      (plainDigits? ds).map fun ds =>
        let n : Int := ofDigits 10 ds
        if minus then -n else n
  if fitsInteger n then some n else none

/-! ## Floats -/

/--
Does `mantissa * 10 ^ exponent` stay below the point from which numbers round to
infinity in 64 bits? The number of digits settles all but the close cases.
-/
def isFinite (mantissa : List Nat) (exponent : Int) : Bool :=
  let m := ofDigits 10 mantissa
  let size := (mantissa.dropWhile (· = 0)).length + exponent
  if m = 0 || size < 300 then true
  else if size > 320 then false
  else
    let bound := Nat.pow 2 1024 - Nat.pow 2 970
    if exponent < 0 then m < bound * Nat.pow 10 (-exponent).toNat
    else m * Nat.pow 10 exponent.toNat < bound

/-- The exponent that follows the letter `e`. -/
def exponent? (cs : List Char) : Option Int :=
  let (minus, ds) := signed cs
  (natural? 10 ds).map fun n => if minus then -(n : Int) else n

/-- Split a text at the first character that satisfies `p`, which is dropped. -/
def splitAtFirst (p : Char → Bool) (cs : List Char) : List Char × Option (List Char) :=
  let front := cs.takeWhile (!p ·)
  match cs.drop front.length with
  | [] => (front, none)
  | _ :: back => (front, some back)

/-- Does a text write a finite float? -/
def isFloat (cs : List Char) : Bool :=
  let (_, cs) := signed cs
  if cs = "inf".toList || cs = "nan".toList then true
  else
    let (number, power) := splitAtFirst (fun c => c = 'e' || c = 'E') cs
    let (whole, fraction) := splitAtFirst (· = '.') number
    let digits := do
      let w ← plainDigits? whole
      match fraction with
      | some f => return (w, ← digitsOf? 10 f)
      | none => return (w, [])
    let power? := match power with
      | some p => exponent? p
      | none => some 0
    match digits, power? with
    | some (w, f), some e =>
      (fraction.isSome || power.isSome) && isFinite (w ++ f) (e - f.length)
    | _, _ => false

/-! ## Date-times -/

/-- A number of exactly some digits, and what follows it. -/
def fixedNumber? (count : Nat) (cs : List Char) : Option (Nat × List Char) := do
  let ds ← (cs.take count).mapM (digit? 10)
  if ds.length = count then some (ofDigits 10 ds, cs.drop count) else none

/-- What follows a character. -/
def after? (c : Char) : List Char → Option (List Char)
  | d :: cs => if d = c then some cs else none
  | [] => none

/-- Is the year a leap year? -/
def isLeapYear (y : Nat) : Bool := y % 4 = 0 && (y % 100 ≠ 0 || y % 400 = 0)

/-- The days of a month. -/
def daysOf (year month : Nat) : Nat :=
  if month = 2 then (if isLeapYear year then 29 else 28)
  else if month ∈ [4, 6, 9, 11] then 30
  else 31

/-- What follows a date. -/
def afterDate? (cs : List Char) : Option (List Char) := do
  let (year, cs) ← fixedNumber? 4 cs
  let (month, cs) ← fixedNumber? 2 (← after? '-' cs)
  let (day, cs) ← fixedNumber? 2 (← after? '-' cs)
  if 1 ≤ month ∧ month ≤ 12 ∧ 1 ≤ day ∧ day ≤ daysOf year month then some cs else none

/-- What follows a colon and the seconds, with their fraction if there is one. -/
def afterSeconds? (cs : List Char) : Option (List Char) := do
  let (second, cs) ← fixedNumber? 2 (← after? ':' cs)
  if second > 60 then none
  match cs with
  | '.' :: d :: rest => if d.isDigit then some (rest.dropWhile Char.isDigit) else none
  | '.' :: [] => none
  | _ => some cs

/-- What follows a time of day. -/
def afterTime? (cs : List Char) : Option (List Char) := do
  let (hour, cs) ← fixedNumber? 2 cs
  let (minute, cs) ← fixedNumber? 2 (← after? ':' cs)
  if hour > 23 ∨ minute > 59 then none
  match cs with
  | ':' :: _ => afterSeconds? cs
  | _ => some cs

/-- What follows an offset from universal time. -/
def afterOffset? : List Char → Option (List Char)
  | [] => some []
  | c :: cs =>
    if c = 'Z' ∨ c = 'z' then some cs
    else if c = '+' ∨ c = '-' then do
      let (hour, cs) ← fixedNumber? 2 cs
      let (minute, cs) ← fixedNumber? 2 (← after? ':' cs)
      if hour > 23 ∨ minute > 59 then none else some cs
    else none

/-- Is the text a date? -/
def isDate (cs : List Char) : Bool := afterDate? cs = some []

/-- Is the text a time of day, a date, or a date with a time and perhaps an offset? -/
def isDateTime (cs : List Char) : Bool :=
  match afterDate? cs with
  | some [] => true
  | some (c :: rest) =>
    (c = 'T' || c = 't' || c = ' ') && ((afterTime? rest).bind afterOffset?) = some []
  | none => afterTime? cs = some []

/-! ## All scalars -/

/-- The value that a text writes without quotes or brackets. -/
def Value.ofScalar? (cs : List Char) : Option Value :=
  if cs = "true".toList then some (.boolean true)
  else if cs = "false".toList then some (.boolean false)
  else
    match integer? cs with
    | some n => some (.integer n)
    | none =>
      if isFloat cs then some (.float (String.ofList cs))
      else if isDateTime cs then some (.dateTime (String.ofList cs))
      else none

end Emend.Toml
