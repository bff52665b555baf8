import ViewAdapters.Text.CodePoints
import ViewAdapters.Text.Printable

/-!
# Quoted texts

Messages show a text between quotes with what does not print escaped, so that
two different texts never look alike.
-/

namespace ViewAdapters.Text

def hexDigit (n : Nat) : Char :=
  if n < 10 then Char.ofNat (48 + n) else Char.ofNat (87 + n)

/-- The last `width` hexadecimal digits of a number, in small letters. -/
def hexDigits : (width : Nat) → Nat → List Char
  | 0, _ => []
  | width + 1, n => hexDigits width (n / 16) ++ [hexDigit (n % 16)]

/-- Single quotes, unless the text holds single quotes and no double ones. -/
def quoteFor (cs : List Char) : Char :=
  if cs.contains '\'' && !cs.contains '"' then '"' else '\''

/-- The shortest hexadecimal escape that fits a code point: two, four or eight digits. -/
def escapeCode (n : Nat) : List Char :=
  if n < 0x100 then '\\' :: 'x' :: hexDigits 2 n
  else if n < 0x10000 then '\\' :: 'u' :: hexDigits 4 n
  else '\\' :: 'U' :: hexDigits 8 n

def escapeChar (quote c : Char) : List Char :=
  if c = quote || c = '\\' then ['\\', c]
  else if c = '\t' then ['\\', 't']
  else if c = '\n' then ['\\', 'n']
  else if c = '\r' then ['\\', 'r']
  else if isPrintable c then [c]
  else escapeCode c.toNat

/-- One code point of a quoted text. -/
def escapePoint (quote : Char) (n : Nat) : List Char :=
  if isSurrogate n then escapeCode n else escapeChar quote (Char.ofNat n)

def quoteChars (cs : List Char) : List Char :=
  let quote := quoteFor cs
  quote :: (codePoints cs).flatMap (escapePoint quote) ++ [quote]

/-- The text between quotes, with what does not print escaped. -/
def quoted (s : String) : String := String.ofList (quoteChars s.toList)

/-- One byte of a quoted byte text: ASCII as in a text, all else by two digits. -/
def escapeByte (quote : Char) (b : UInt8) : List Char :=
  if b.toNat < 128 then escapeChar quote (Char.ofNat b.toNat) else escapeCode b.toNat

/-- Bytes between quotes, marked by a leading `b`. -/
def quotedBytes (bs : List UInt8) : String :=
  let quote := quoteFor (bs.map fun b => Char.ofNat b.toNat)
  String.ofList ('b' :: quote :: bs.flatMap (escapeByte quote) ++ [quote])

end ViewAdapters.Text
