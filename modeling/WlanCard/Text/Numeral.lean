/-!
# Numerals in messages

Messages write numbers in decimal or in hexadecimal. A hexadecimal numeral carries the mark `0x`
and upper-case digits, and is filled with zeros on the left up to a least width; bytes in a list
have two digits and no mark.
-/

namespace WlanCard.Text

/-- The letters of the digits above nine. -/
inductive LetterCase where
  | lower
  | upper
deriving DecidableEq, Repr

/-- A hexadecimal digit in the given letters. -/
def LetterCase.apply : LetterCase → Char → Char
  | .lower, c => c
  | .upper, c => c.toUpper

/-- The hexadecimal digits of a number, filled with zeros on the left up to `width` digits. -/
def hexDigits (letters : LetterCase) (width n : Nat) : String :=
  let digits := (Nat.toDigits 16 n).map letters.apply
  String.ofList (List.replicate (width - digits.length) '0' ++ digits)

/-- A marked upper-case hexadecimal numeral of at least `width` digits. -/
def hexPadded (width n : Nat) : String :=
  "0x" ++ hexDigits .upper width n

/-- A marked upper-case hexadecimal numeral with no leading zeros. -/
def hex (n : Nat) : String :=
  hexPadded 1 n

/-- Items in brackets, separated by commas. -/
def listing (items : List String) : String :=
  "[" ++ ", ".intercalate items ++ "]"

/-- Bytes in brackets, two hexadecimal digits each. -/
def byteListing (letters : LetterCase) (bytes : List UInt8) : String :=
  listing (bytes.map fun b => hexDigits letters 2 b.toNat)

end WlanCard.Text
