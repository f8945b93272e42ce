import Pluck.Toml.Basic
import Pluck.Text.Digit
import Pluck.Numeric.Binary64

/-! The TOML values that are written without quotes and brackets: booleans, integers,
floating-point numbers and dates. Each is recognised in a whole token. -/

namespace Pluck
namespace Toml

/-- Digits in which single underscores may stand between two digits; they are dropped. -/
def digits? (radix : Nat) (token : List Char) : Option (List Char) :=
  let ok := Digit.isDigit radix
  let rec go : List Char → Option (List Char)
    | [] => none
    | [c] => if ok c then some [c] else none
    | c :: '_' :: rest => if ok c then (go rest).map (c :: ·) else none
    | c :: rest => if ok c then (go rest).map (c :: ·) else none
  go token

/-- A sign, if one stands in front, and the rest of the token. -/
def sign : List Char → Bool × List Char
  | '-' :: rest => (true, rest)
  | '+' :: rest => (false, rest)
  | token => (false, token)

/-- Decimal digits without a leading zero. -/
def decimal? (token : List Char) : Option (List Char) :=
  match digits? 10 token with
  | some ('0' :: _ :: _) => none
  | found => found

/-- Integers of up to 128 bits, signed or unsigned. -/
def ofMagnitude (negative : Bool) (magnitude : Nat) : Option Toml :=
  let n : Int := if negative then -(magnitude : Int) else magnitude
  if -2 ^ 127 ≤ n ∧ n < 2 ^ 128 then some (.integer n) else none

def integer? (token : List Char) : Option Toml :=
  match token with
  | '0' :: 'x' :: rest => (digits? 16 rest).bind fun ds => ofMagnitude false (Digit.number 16 ds)
  | '0' :: 'o' :: rest => (digits? 8 rest).bind fun ds => ofMagnitude false (Digit.number 8 ds)
  | '0' :: 'b' :: rest => (digits? 2 rest).bind fun ds => ofMagnitude false (Digit.number 2 ds)
  | _ =>
      let (negative, unsigned) := sign token
      (decimal? unsigned).bind fun ds => ofMagnitude negative (Digit.number 10 ds)

/-- Whether a decimal number is too large for binary floating point of 64 bits, that is at least
half a unit above the largest such number. -/
def isTooLarge (significand : Nat) (exponent : Int) : Bool :=
  let places : Int := exponent + (Nat.toDigits 10 significand).length
  if significand = 0 ∨ places < 300 then false
  else if 400 < places then true
  else
    (2 ^ 54 - 1) * 2 ^ 970 * 10 ^ (-exponent).toNat ≤ significand * 10 ^ exponent.toNat

/-- A number with a fraction, an exponent or both. -/
def number? (token : List Char) : Option Toml := do
  let isE := fun c => c = 'e' || c = 'E'
  let mantissa := token.takeWhile (!isE ·)
  let whole ← decimal? (mantissa.takeWhile (· ≠ '.'))
  let fraction ←
    match mantissa.dropWhile (· ≠ '.') with
    | [] => some []
    | _ :: rest => digits? 10 rest
  let exponent ←
    match token.dropWhile (!isE ·) with
    | [] => if fraction.isEmpty then none else some 0
    | _ :: rest =>
        let (negative, unsigned) := sign rest
        (digits? 10 unsigned).map fun ds =>
          if negative then -(Digit.number 10 ds : Int) else Digit.number 10 ds
  if isTooLarge (Digit.number 10 (whole ++ fraction)) (exponent - fraction.length) then none
  else some .float

def float? (token : List Char) : Option Toml :=
  let unsigned := (sign token).2
  if unsigned = ['i', 'n', 'f'] ∨ unsigned = ['n', 'a', 'n'] then some .float else number? unsigned

/-- The number of a fixed count of decimal digits, and the text after it. -/
def places? (count : Nat) (text : List Char) : Option (Nat × List Char) :=
  let ds := text.take count
  if ds.length = count ∧ ds.all (Digit.isDigit 10) then
    some (Digit.number 10 ds, text.drop count)
  else none

def afterChar? (c : Char) : List Char → Option (List Char)
  | d :: rest => if d = c then some rest else none
  | [] => none

def isLeapYear (year : Nat) : Bool := year % 4 = 0 && (year % 100 ≠ 0 || year % 400 = 0)

def daysInMonth (year month : Nat) : Nat :=
  if month = 2 then (if isLeapYear year then 29 else 28)
  else if month = 4 ∨ month = 6 ∨ month = 9 ∨ month = 11 then 30
  else 31

/-- The text after a day of the calendar. -/
def afterDay? (text : List Char) : Option (List Char) := do
  let (year, text) ← places? 4 text
  let (month, text) ← places? 2 (← afterChar? '-' text)
  let (day, text) ← places? 2 (← afterChar? '-' text)
  if 1 ≤ month ∧ month ≤ 12 ∧ 1 ≤ day ∧ day ≤ daysInMonth year month then some text else none

/-- The text after the seconds of a time of day and their fraction. A minute may have a leap
second. -/
def afterSeconds? (text : List Char) : Option (List Char) := do
  let (second, text) ← places? 2 text
  if 60 < second then none
  else
    match text with
    | '.' :: c :: rest =>
        if Digit.isDigit 10 c then some (rest.dropWhile (Digit.isDigit 10)) else none
    | '.' :: [] => none
    | _ => some text

/-- The text after a time of day, which may be without seconds. -/
def afterTime? (text : List Char) : Option (List Char) := do
  let (hour, text) ← places? 2 text
  let (minute, text) ← places? 2 (← afterChar? ':' text)
  if 24 ≤ hour ∨ 60 ≤ minute then none
  else
    match text with
    | ':' :: rest => afterSeconds? rest
    | _ => some text

/-- What may follow a day and a time of day: nothing, or the distance from universal time. -/
def isOffset (text : List Char) : Bool :=
  match text with
  | [] => true
  | ['Z'] => true
  | ['z'] => true
  | c :: rest =>
      (c = '+' || c = '-') &&
        ((do
          let (hour, rest) ← places? 2 rest
          let (minute, rest) ← places? 2 (← afterChar? ':' rest)
          return hour < 24 && minute < 60 && rest.isEmpty).getD false)

/-- A day, a time of day, or both with or without an offset. -/
def date? (token : List Char) : Option Toml :=
  match afterDay? token with
  | some [] => some .date
  | some (c :: rest) =>
      if c = 'T' ∨ c = 't' ∨ c = ' ' then
        match afterTime? rest with
        | some rest => if isOffset rest then some .date else none
        | none => none
      else none
  | none => if afterTime? token = some [] then some .date else none

/-- The value that a token spells. -/
def scalar? (token : List Char) : Option Toml :=
  if token = ['t', 'r', 'u', 'e'] then some (.boolean true)
  else if token = ['f', 'a', 'l', 's', 'e'] then some (.boolean false)
  else (integer? token).or ((float? token).or (date? token))

end Toml
end Pluck
