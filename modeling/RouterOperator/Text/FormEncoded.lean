/-!
# Form encoding

The form in which a text stands in the query of a request: letters, digits and `*-._` as they are, a
space as a plus sign, and every other byte as a percent sign with two hexadecimal digits.
-/

namespace RouterOperator.Text

/-- Whether a byte stands for itself. -/
def isFormByte (byte : UInt8) : Bool :=
  let c := Char.ofNat byte.toNat
  c.isAlphanum || c = '*' || c = '-' || c = '.' || c = '_'

/-- The upper-case digit of a number below sixteen. -/
def upperHexDigit (n : Nat) : Char := (Nat.digitChar n).toUpper

/-- A byte in form encoding. -/
def formByte (byte : UInt8) : List Char :=
  if isFormByte byte then [Char.ofNat byte.toNat]
  else if byte = 0x20 then ['+']
  else ['%', upperHexDigit (byte.toNat / 16), upperHexDigit (byte.toNat % 16)]

/-- A text in form encoding. -/
def formEncoded (text : String) : String :=
  String.ofList (text.toUTF8.data.toList.flatMap formByte)

end RouterOperator.Text
