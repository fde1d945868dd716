import Discovery.Category.Codec
import Discovery.Decimal.Digits
import Discovery.Text.Utf8
/-!
# Query strings

A query is a list of keys and values, written as a form is: parts are joined by `&`, a key ends at its first `=`, a
plus sign is a blank, and `%` with two hexadecimal digits is a byte. Empty parts count for nothing. The only key
with a meaning is `category`, which may occur once.
-/
namespace Discovery.Http

open Decimal (hexValue?)

/-- A byte that is not escaped. -/
def plainByte (byte : UInt8) : UInt8 := if byte = 0x2b then 0x20 else byte

/-- The byte that two hexadecimal digits name. -/
def hexByte? (high low : UInt8) : Option UInt8 := do
  let high ← hexValue? (Char.ofNat high.toNat)
  let low ← hexValue? (Char.ofNat low.toNat)
  return UInt8.ofNat (high * 16 + low)

/-- The bytes that a part of a form stands for. A percent sign without two digits stands for itself. -/
def unescape : List UInt8 → List UInt8
  | byte :: high :: low :: rest =>
    if byte = 0x25 then
      match hexByte? high low with
      | some named => named :: unescape rest
      | none => byte :: unescape (high :: low :: rest)
    else plainByte byte :: unescape (high :: low :: rest)
  | byte :: rest => plainByte byte :: unescape rest
  | [] => []

/-- The text that a part of a form stands for. -/
def formText (part : List Char) : String :=
  String.ofList (Text.Utf8.decodeLossy (unescape (String.ofList part).toUTF8.toList))

/-- Cut a text at every occurrence of a character. -/
def cutAt (mark : Char) : List Char → List (List Char)
  | [] => [[]]
  | char :: rest =>
    if char = mark then [] :: cutAt mark rest
    else match cutAt mark rest with
      | [] => [[char]]
      | first :: others => (char :: first) :: others

/-- The key and the value of one part. -/
def formPair (part : List Char) : String × String :=
  let (key, rest) := part.span (· ≠ '=')
  (formText key, formText (rest.drop 1))

/-- The keys and values of a query. -/
def formPairs (query : String) : List (String × String) :=
  ((cutAt '&' query.toList).filter (!·.isEmpty)).map formPair

/-- Take one key and its value into account. -/
def withPair (held : Option Category) (pair : String × String) : Except DecodeError (Option Category) :=
  if pair.1 ≠ "category" then .ok held
  else if held.isSome then .error (.duplicateField "category")
  else return some (← Category.decodeName pair.2)

/-- The category that a query names, if it names one. -/
def queryCategory (query : String) : Except DecodeError (Option Category) :=
  (formPairs query).foldlM withPair none

end Discovery.Http
