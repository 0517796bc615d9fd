/-!
# UTF-8

A character is encoded in one to four bytes. The lead byte announces how many there are; a reader
that trusts the announcement takes that many bytes first and looks at them afterwards, so `width?`
is wider than the standard: it also gives a length to the lead bytes C0, C1 and F5 to F7, which
begin no encoding.

`decode` is exact. It refuses bytes that are not the shortest form, surrogates and code points
beyond 10FFFF, and tells how much of the beginning could still have become a character.
-/

namespace CellMachine.Utf8

/-- The bytes of a character. -/
def encode (c : Char) : List UInt8 := String.utf8EncodeChar c

/-- How many bytes a lead byte announces, itself included; none for 80 to BF and F8 to FF. -/
def width? (lead : UInt8) : Option Nat :=
  if lead < 0x80 then some 1
  else if lead < 0xC0 then none
  else if lead < 0xE0 then some 2
  else if lead < 0xF0 then some 3
  else if lead < 0xF8 then some 4
  else none

/-- Whether some encoding of more than one byte begins with this byte. -/
def isLead (b : UInt8) : Bool := 0xC2 ≤ b && b ≤ 0xF4

/-- The least and the greatest byte that may follow a lead byte. -/
def secondByte (lead : UInt8) : UInt8 × UInt8 :=
  if lead = 0xE0 then (0xA0, 0xBF)
  else if lead = 0xED then (0x80, 0x9F)
  else if lead = 0xF0 then (0x90, 0xBF)
  else if lead = 0xF4 then (0x80, 0x8F)
  else (0x80, 0xBF)

/-- How many bytes of a list continue an encoding, when the first must lie in a range and the
others between 80 and BF. -/
def continued (range : UInt8 × UInt8) : List UInt8 → Nat
  | [] => 0
  | b :: bs => if range.1 ≤ b && b ≤ range.2 then continued (0x80, 0xBF) bs + 1 else 0

/-- The part of the code point that a lead byte holds. -/
def leadBits (lead : UInt8) : Nat :=
  if lead < 0x80 then lead.toNat
  else if lead < 0xE0 then lead.toNat % 32
  else if lead < 0xF0 then lead.toNat % 16
  else lead.toNat % 8

/-- The code point of a lead byte and the bytes that continue it, six bits each. -/
def codePoint (lead : UInt8) (rest : List UInt8) : Nat :=
  rest.foldl (fun n b => 64 * n + b.toNat % 64) (leadBits lead)

/-- The character of a lead byte and as many bytes after it as it announces. The error is the
number of bytes, at least one, with which some encoding begins. -/
def decode (lead : UInt8) (rest : List UInt8) : Except Nat Char :=
  if lead < 0x80 then .ok (.ofNat lead.toNat)
  else if isLead lead then
    let n := continued (secondByte lead) rest
    if n = rest.length then .ok (.ofNat (codePoint lead rest)) else .error (n + 1)
  else .error 1

end CellMachine.Utf8
