import HostedFiles.Text.PrintableTable

/-!
# Text/Quoted — a text between quotation marks, as a message shows it

Backslash, quotation mark, tab, line feed, carriage return and NUL are written with a backslash;
characters that show no shape of their own, or that would attach to the mark before them, are
spelled by their number; all others stand for themselves.
-/

namespace HostedFiles.Text

/-- The digits of a number in base sixteen, small letters. -/
def hexDigits (n : Nat) : List Char :=
  Nat.toDigits 16 n

/-- The number of a character between braces, in base sixteen. -/
def spelled (c : Char) : List Char :=
  ['\\', 'u', '\x7b'] ++ hexDigits c.toNat ++ ['\x7d']

/-- Whether quoting spells the character by its number. -/
def isSpelled (c : Char) : Bool :=
  if isAscii c then c.toNat < 32 || c.toNat == 127
  else graphemeExtend.contains c.toNat || unprintable.contains c.toNat

/-- One character as it stands between quotation marks. -/
def quotedChar (c : Char) : List Char :=
  if c = '\x00' then ['\\', '0']
  else if c = '\t' then ['\\', 't']
  else if c = '\r' then ['\\', 'r']
  else if c = '\n' then ['\\', 'n']
  else if c = '\\' || c = '"' then ['\\', c]
  else if isSpelled c then spelled c
  else [c]

/-- The text between quotation marks. -/
def quoted (s : String) : String :=
  String.ofList (['"'] ++ s.toList.flatMap quotedChar ++ ['"'])

end HostedFiles.Text
