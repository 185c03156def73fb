import Reconciliation.Text.Unprintable
/-!
# Quoted text

Messages show a text between quotes when its exact characters matter. Quotes, backslashes and the common
controls have an escape of one letter, and every other character without a shape of its own is named by
its number, so nothing in the message is invisible.
-/

namespace Reconciliation

namespace Text

def hexDigits (n : Nat) : List Char :=
  Nat.toDigits 16 n

/-- One character between quotes. -/
def quoteChar (c : Char) : List Char :=
  if c = '"' then ['\\', '"']
  else if c = '\\' then ['\\', '\\']
  else if c = '\n' then ['\\', 'n']
  else if c = '\r' then ['\\', 'r']
  else if c = '\t' then ['\\', 't']
  else if c.toNat = 0 then ['\\', '0']
  else if isUnprintable c then '\\' :: 'u' :: '\x7b' :: hexDigits c.toNat ++ ['\x7d']
  else [c]

def quoted (s : String) : String :=
  String.ofList ('"' :: s.toList.flatMap quoteChar ++ ['"'])

end Text

end Reconciliation
