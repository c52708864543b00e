/-!
# Binary floating point numbers

A number of the 64-bit binary format is kept as its bits.  A decimal is rounded
to the nearest number, and of two equally near ones to that with an even
significand, in exact arithmetic on natural numbers.
-/

namespace PhotoGallery

structure Binary64 where
  bits : UInt64
deriving DecidableEq

namespace Binary64

/-- The bits of a significand and exponent field under a sign. -/
def pack (negative : Bool) (magnitude : Nat) : Binary64 :=
  ⟨UInt64.ofNat (magnitude + if negative then Nat.pow 2 63 else 0)⟩

/-- The bits of infinity without its sign. -/
def infinityBits : Nat := 2047 * Nat.pow 2 52

def infinity (negative : Bool) : Binary64 :=
  pack negative infinityBits

def notANumber : Binary64 :=
  pack false (infinityBits + Nat.pow 2 51)

/-- The bits without the sign. -/
def magnitude (number : Binary64) : Nat :=
  number.bits.toNat % Nat.pow 2 63

def isNegative (number : Binary64) : Bool :=
  Nat.pow 2 63 ≤ number.bits.toNat

def isInfinite (number : Binary64) : Bool :=
  number.magnitude == infinityBits

def isNaN (number : Binary64) : Bool :=
  infinityBits < number.magnitude

/-- The significand of a finite number, an integer. -/
def significand (number : Binary64) : Nat :=
  let field := number.magnitude / Nat.pow 2 52
  number.magnitude % Nat.pow 2 52 + if field = 0 then 0 else Nat.pow 2 52

/-- The power of two that the significand of a finite number counts. -/
def exponent (number : Binary64) : Int :=
  max 1 (number.magnitude / Nat.pow 2 52 : Nat) - 1075

/-- A quotient rounded to the nearest integer, a half to the even one. -/
def roundDiv (numerator denominator : Nat) : Nat :=
  let quotient := numerator / denominator
  let remainder := numerator % denominator
  if 2 * remainder < denominator then quotient
  else if denominator < 2 * remainder then quotient + 1
  else quotient + quotient % 2

/-- A quotient counted in units of a power of two. -/
def roundScaled (numerator denominator : Nat) (power : Int) : Nat :=
  if 0 ≤ power then roundDiv numerator (denominator * Nat.pow 2 power.toNat)
  else roundDiv (numerator * Nat.pow 2 (-power).toNat) denominator

/-- Whether a quotient, counted in units of a power of two, has at most 53 bits. -/
def fits (numerator denominator : Nat) (power : Int) : Bool :=
  if 0 ≤ power then numerator < Nat.pow 2 53 * (denominator * Nat.pow 2 power.toNat)
  else numerator * Nat.pow 2 (-power).toNat < Nat.pow 2 53 * denominator

/-- The bits of the number nearest to a positive quotient. -/
def nearestBits (numerator denominator : Nat) : Nat :=
  let low : Int := max ((numerator.log2 : Int) - denominator.log2 - 53) (-1074)
  let power := if fits numerator denominator low then low else low + 1
  let count := roundScaled numerator denominator power
  min infinityBits ((power + 1074).toNat * Nat.pow 2 52 + count)

/-- The number nearest to `digits` times the given power of ten. -/
def ofDecimal (negative : Bool) (digits : Nat) (power : Int) : Binary64 :=
  let length : Int := (Nat.toDigits 10 digits).length
  if digits = 0 then pack negative 0
  else if 400 < length + power then infinity negative
  else if length + power < -400 then pack negative 0
  else if 0 ≤ power then pack negative (nearestBits (digits * Nat.pow 10 power.toNat) 1)
  else pack negative (nearestBits digits (Nat.pow 10 (-power).toNat))

/-- The number nearest to the product of two finite numbers without their signs. -/
def times (first second : Binary64) : Binary64 :=
  let count := first.significand * second.significand
  let power := first.exponent + second.exponent
  if count = 0 then pack false 0
  else if 0 ≤ power then pack false (nearestBits (count * Nat.pow 2 power.toNat) 1)
  else pack false (nearestBits count (Nat.pow 2 (-power).toNat))

end Binary64

end PhotoGallery
