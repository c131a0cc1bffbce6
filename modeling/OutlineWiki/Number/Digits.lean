/-!
# Digits of whole numbers

The values of digits in a base up to sixteen, and the limit that readers have to the decimal digits of a whole
number. A number beyond the limit is no error of the text that it stands in, but its reader stops there.
-/

namespace OutlineWiki

/-- The value of a digit in a base up to sixteen. -/
def digitValue? (base : Nat) (character : Char) : Option Nat :=
  let code := character.toNat
  let value :=
    if Nat.ble 0x30 code && Nat.ble code 0x39 then code - 0x30
    else if Nat.ble 0x41 code && Nat.ble code 0x46 then code - 0x41 + 10
    else if Nat.ble 0x61 code && Nat.ble code 0x66 then code - 0x61 + 10
    else base
  if value < base then some value else none

/-- The number that the values of digits make. -/
def numberOfDigits (base : Nat) (digits : List Nat) : Nat :=
  digits.foldl (fun value digit => base * value + digit) 0

/-- The most digits of a whole number that a command takes. -/
def usualDigitLimit : Nat := 4300

/-- What is said about a whole number with more digits than a reader takes. -/
def manyDigitsMessage (count limit : Nat) : String :=
  "Exceeds the limit (" ++ toString limit ++ " digits) for integer string conversion: value has " ++
    toString count ++ " digits; use sys.set_int_max_str_digits() to increase the limit"

end OutlineWiki
