import Pluck.Json.Basic
import Pluck.Json.Fault

/-! Reading JSON numbers.

Digits are gathered into a significand as long as 64 bits hold it. Further digits before the
point only raise the exponent, further digits after it are dropped. -/

namespace Pluck
namespace Json

def digitValue (c : Char) : Nat := c.toNat - '0'.toNat

def startsWithDigit : List Char → Bool
  | c :: _ => c.isDigit
  | [] => false

/-- Appends digits to a significand while it stays below `2 ^ 64`. Answers the significand, the
number of digits taken and the text from the first digit or other character that was not. -/
def takeDigits (significand : Nat) : List Char → Nat × Nat × List Char
  | [] => (significand, 0, [])
  | c :: rest =>
      let longer := significand * 10 + digitValue c
      if c.isDigit ∧ longer < 2 ^ 64 then
        let (all, count, left) := takeDigits longer rest
        (all, count + 1, left)
      else (significand, 0, c :: rest)

/-- The greatest power of ten that is applied in one step. -/
def maxStep : Nat := 308

/-- Multiplies by a power of ten. Powers beyond the greatest step are applied in several steps,
downwards only; upwards they leave the range of all numbers but zero. -/
def scale (x : Binary64) (exponent : Int) : Option Binary64 :=
  if exponent.natAbs ≤ maxStep then
    (Binary64.ofInt (10 ^ exponent.natAbs)).bind fun power =>
      if 0 ≤ exponent then x.mul power else x.div power
  else if x.isZero then some x
  else if 0 ≤ exponent then none
  else
    (Binary64.ofInt (10 ^ maxStep)).bind fun power =>
      (x.div power).bind fun y => scale y (exponent + maxStep)
termination_by exponent.natAbs
decreasing_by
  simp only [maxStep] at *
  omega

/-- A floating-point number of a magnitude, if that is not too large. -/
def floatOfMagnitude (negative : Bool) (rest : List Char) : Option Binary64 → Reading Flaw Number
  | some x => .ok (.float (if negative then x.neg else x), rest)
  | none => .error (.here .numberOutOfRange rest)

/-- A floating-point number from its parts. -/
def floatOfParts (negative : Bool) (significand : Nat) (exponent : Int) (rest : List Char) :
    Reading Flaw Number :=
  floatOfMagnitude negative rest ((Binary64.ofInt significand).bind (scale · exponent))

/-- The digits of an exponent after the first. The exponent must stay below `2 ^ 31`; one that
does not is no fault where the number is zero in any case. -/
def exponentDigits (negative : Bool) (significand : Nat) (exponent : Int) (down : Bool)
    (read : Nat) : List Char → Reading Flaw Number
  | [] => floatOfParts negative significand (if down then exponent - read else exponent + read) []
  | c :: rest =>
      if c.isDigit then
        let longer := read * 10 + digitValue c
        if longer < 2 ^ 31 then exponentDigits negative significand exponent down longer rest
        else if significand ≠ 0 ∧ ¬down then .error (.here .numberOutOfRange rest)
        else .ok (.float (.zero negative), rest.dropWhile Char.isDigit)
      else
        floatOfParts negative significand (if down then exponent - read else exponent + read)
          (c :: rest)

def unsignedExponent (negative : Bool) (significand : Nat) (exponent : Int) (down : Bool) :
    List Char → Reading Flaw Number
  | [] => .error (.here .endInValue [])
  | c :: rest =>
      if c.isDigit then exponentDigits negative significand exponent down (digitValue c) rest
      else .error (.next .invalidNumber (c :: rest))

/-- What follows the letter of an exponent. -/
def exponentPart (negative : Bool) (significand : Nat) (exponent : Int) :
    List Char → Reading Flaw Number
  | '+' :: rest => unsignedExponent negative significand exponent false rest
  | '-' :: rest => unsignedExponent negative significand exponent true rest
  | rest => unsignedExponent negative significand exponent false rest

def afterFraction (negative : Bool) (significand : Nat) (exponent : Int) :
    List Char → Reading Flaw Number
  | 'e' :: rest => exponentPart negative significand exponent rest
  | 'E' :: rest => exponentPart negative significand exponent rest
  | rest => floatOfParts negative significand exponent rest

/-- What follows the point. -/
def fractionPart (negative : Bool) (significand : Nat) (exponent : Int) (text : List Char) :
    Reading Flaw Number :=
  let (all, count, rest) := takeDigits significand text
  if startsWithDigit rest then
    afterFraction negative all (exponent - count) (rest.dropWhile Char.isDigit)
  else if count = 0 then
    .error (.next (if rest.isEmpty then .endInValue else .invalidNumber) rest)
  else afterFraction negative all (exponent - count) rest

/-- A number without fraction and exponent. Negative zero and what 64 bits do not hold are
floating-point numbers. -/
def wholeOfParts (negative : Bool) (significand : Nat) (rest : List Char) : Reading Flaw Number :=
  let value : Int := if negative then -(significand : Int) else significand
  match Whole.ofInt? value with
  | some n =>
      if negative ∧ significand = 0 then .ok (.float (.zero true), rest) else .ok (.whole n, rest)
  | none => floatOfParts negative significand 0 rest

/-- What follows the digits before the point. -/
def afterWhole (negative : Bool) (significand : Nat) : List Char → Reading Flaw Number
  | '.' :: rest => fractionPart negative significand 0 rest
  | 'e' :: rest => exponentPart negative significand 0 rest
  | 'E' :: rest => exponentPart negative significand 0 rest
  | rest => wholeOfParts negative significand rest

/-- The same when more digits came than 64 bits hold. -/
def afterLongWhole (negative : Bool) (significand : Nat) (exponent : Int) :
    List Char → Reading Flaw Number
  | '.' :: rest => fractionPart negative significand exponent rest
  | 'e' :: rest => exponentPart negative significand exponent rest
  | 'E' :: rest => exponentPart negative significand exponent rest
  | rest => floatOfParts negative significand exponent rest

/-- A number after its sign. A leading zero stands alone. -/
def readNumber (negative : Bool) : List Char → Reading Flaw Number
  | [] => .error (.here .endInValue [])
  | '0' :: rest =>
      if startsWithDigit rest then .error (.next .invalidNumber rest)
      else afterWhole negative 0 rest
  | c :: rest =>
      if c.isDigit then
        let (significand, _, left) := takeDigits (digitValue c) rest
        if startsWithDigit left then
          afterLongWhole negative significand (left.takeWhile Char.isDigit).length
            (left.dropWhile Char.isDigit)
        else afterWhole negative significand left
      else .error (.next .invalidNumber (c :: rest))

end Json
end Pluck
