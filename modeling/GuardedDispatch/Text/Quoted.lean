import GuardedDispatch.Text.Concealed

/-!
# Quoted text in diagnostics

Diagnostic text shows a string between double quotes. A quote and a backslash are written with a
backslash, the common controls by their letter, and every other concealed character as its number
in braces.
-/

namespace GuardedDispatch.Text

/-- The hexadecimal digits of a number, in lower case. -/
def hexDigits (n : Nat) : List Char := Nat.toDigits 16 n

/-- The written form of one character. -/
def escapeChar (c : Char) : List Char :=
  if c = '"' then ['\\', '"']
  else if c = '\\' then ['\\', '\\']
  else if c = '\n' then ['\\', 'n']
  else if c = '\t' then ['\\', 't']
  else if c = '\r' then ['\\', 'r']
  else if c.toNat = 0 then ['\\', '0']
  else if isConcealed c then ['\\', 'u', '\x7b'] ++ hexDigits c.toNat ++ ['\x7d']
  else [c]

/-- The text between quotes. -/
def quoted (s : String) : String :=
  String.ofList ('"' :: s.toList.flatMap escapeChar ++ ['"'])

/-- One byte as two hexadecimal digits. -/
def hexByte (b : UInt8) : List Char :=
  [Nat.digitChar (b.toNat / 16), Nat.digitChar (b.toNat % 16)]

/-- Bytes as hexadecimal text, two digits each. -/
def hexText (bs : List UInt8) : String := String.ofList (bs.flatMap hexByte)

/-- Hexadecimal text has two digits for each byte. -/
theorem length_hexText (bs : List UInt8) : (hexText bs).length = 2 * bs.length := by
  induction bs with
  | nil => rfl
  | cons b bs ih =>
    simp only [hexText, String.length_ofList] at ih ⊢
    simp only [List.flatMap_cons, List.length_append, ih, List.length_cons, hexByte, List.length_nil]
    omega

end GuardedDispatch.Text
