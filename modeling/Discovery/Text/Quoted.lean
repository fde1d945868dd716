import Discovery.Decimal.Digits
import Discovery.Text.Unprintable
/-!
# Quoted text in messages

A text between double quotes as a message shows it: quotes and backslashes escaped, common controls by
their letter, and any other character that is not printable by its code point in braces.
-/
namespace Discovery.Text

def quoteChar (char : Char) : List Char :=
  if char = '\x00' then ['\\', '0']
  else if char = '\t' then ['\\', 't']
  else if char = '\r' then ['\\', 'r']
  else if char = '\n' then ['\\', 'n']
  else if char = '\\' then ['\\', '\\']
  else if char = '"' then ['\\', '"']
  else if isUnprintable char then ['\\', 'u', '\x7b'] ++ Decimal.hexDigits char.toNat ++ ['\x7d']
  else [char]

def quoted (text : String) : String := String.ofList ('"' :: text.toList.flatMap quoteChar ++ ['"'])

end Discovery.Text
