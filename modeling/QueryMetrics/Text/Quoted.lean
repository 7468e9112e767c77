import QueryMetrics.Text.PrintableTable
import QueryMetrics.Text.Span

/-!
# Quoted text

Error messages show names and values in quotes, so that blanks and unprintable characters can be
seen. The quotes are single ones unless the text holds a single quote and no double quote.
Backslash and the surrounding quote are escaped; tab, line feed and carriage return have letters
of their own; everything else without a printed form is shown by its code point in two, four or
eight hexadecimal digits.
-/

namespace QueryMetrics.Text

/-- The character has a printed form. -/
def isPrintable (c : Char) : Bool :=
  if c.toNat < 0x7F then 0x20 ≤ c.toNat else !inSpans unprintableSpans c.toNat

/-- The number in lower-case hexadecimal, padded with zeros to `width` digits. -/
def hexadecimal (width n : Nat) : List Char :=
  let digits := Nat.toDigits 16 n
  List.replicate (width - digits.length) '0' ++ digits

/-- How one character is written between the given quotes. -/
def quotedChar (quote c : Char) : List Char :=
  if c = quote ∨ c = '\\' then ['\\', c]
  else if c = '\t' then ['\\', 't']
  else if c = '\n' then ['\\', 'n']
  else if c = '\r' then ['\\', 'r']
  else if isPrintable c then [c]
  else if c.toNat < 0x100 then '\\' :: 'x' :: hexadecimal 2 c.toNat
  else if c.toNat < 0x10000 then '\\' :: 'u' :: hexadecimal 4 c.toNat
  else '\\' :: 'U' :: hexadecimal 8 c.toNat

/-- The quote used around a text. -/
def quoteFor (text : List Char) : Char :=
  if '\'' ∈ text ∧ '"' ∉ text then '"' else '\''

/-- The text in quotes. -/
def quoted (text : String) : String :=
  let quote := quoteFor text.toList
  String.ofList (quote :: text.toList.flatMap (quotedChar quote) ++ [quote])

/-- How one octet is written between the given quotes: as in a text if it is ASCII, otherwise by
its number. -/
def quotedOctet (quote : Char) (octet : UInt8) : List Char :=
  if octet < 0x80 then quotedChar quote (Char.ofNat octet.toNat)
  else '\\' :: 'x' :: hexadecimal 2 octet.toNat

/-- Octets in quotes, marked as such by a letter in front. -/
def quotedBytes (octets : List UInt8) : String :=
  let quote := quoteFor (octets.map fun octet => Char.ofNat octet.toNat)
  String.ofList ('b' :: quote :: octets.flatMap (quotedOctet quote) ++ [quote])

end QueryMetrics.Text
