import CraftRelay.Lib.Ascii
import CraftRelay.Client.JavaString

/-!
# Character classes of Java

`Character.isLowerCase`, `Character.isDigit` and `Character.digit` of a `char`: the
lower-case letters and the decimal digits of the Basic Multilingual Plane, as Unicode 16 has
them. A surrogate is neither. `Character.toLowerCase` is only asked whether it changes a code
point.
-/

namespace CraftRelay.Client

namespace Character

/-- Every `step`-th number from `first` to `last`. -/
structure CharRange where
  first : Nat
  last : Nat
  step : Nat

def CharRange.contains (r : CharRange) (n : Nat) : Bool :=
  r.first ≤ n && n ≤ r.last && (n - r.first) % r.step == 0

/-- The letters beyond ASCII with the property `Lowercase`. -/
def lowerCaseRanges : List CharRange :=
  [⟨0x00AA, 0x00AA, 1⟩, ⟨0x00B5, 0x00B5, 1⟩, ⟨0x00BA, 0x00BA, 1⟩, ⟨0x00DF, 0x00F6, 1⟩,
   ⟨0x00F8, 0x00FF, 1⟩, ⟨0x0101, 0x0137, 2⟩, ⟨0x0138, 0x0148, 2⟩, ⟨0x0149, 0x0177, 2⟩,
   ⟨0x017A, 0x017E, 2⟩, ⟨0x017F, 0x0180, 1⟩, ⟨0x0183, 0x0185, 2⟩, ⟨0x0188, 0x0188, 1⟩,
   ⟨0x018C, 0x018D, 1⟩, ⟨0x0192, 0x0192, 1⟩, ⟨0x0195, 0x0195, 1⟩, ⟨0x0199, 0x019B, 1⟩,
   ⟨0x019E, 0x019E, 1⟩, ⟨0x01A1, 0x01A5, 2⟩, ⟨0x01A8, 0x01AA, 2⟩, ⟨0x01AB, 0x01AD, 2⟩,
   ⟨0x01B0, 0x01B0, 1⟩, ⟨0x01B4, 0x01B6, 2⟩, ⟨0x01B9, 0x01BA, 1⟩, ⟨0x01BD, 0x01BF, 1⟩,
   ⟨0x01C6, 0x01C6, 1⟩, ⟨0x01C9, 0x01C9, 1⟩, ⟨0x01CC, 0x01DC, 2⟩, ⟨0x01DD, 0x01EF, 2⟩,
   ⟨0x01F0, 0x01F0, 1⟩, ⟨0x01F3, 0x01F5, 2⟩, ⟨0x01F9, 0x0233, 2⟩, ⟨0x0234, 0x0239, 1⟩,
   ⟨0x023C, 0x023C, 1⟩, ⟨0x023F, 0x0240, 1⟩, ⟨0x0242, 0x0242, 1⟩, ⟨0x0247, 0x024F, 2⟩,
   ⟨0x0250, 0x0293, 1⟩, ⟨0x0295, 0x02B8, 1⟩, ⟨0x02C0, 0x02C1, 1⟩, ⟨0x02E0, 0x02E4, 1⟩,
   ⟨0x0345, 0x0345, 1⟩, ⟨0x0371, 0x0373, 2⟩, ⟨0x0377, 0x0377, 1⟩, ⟨0x037A, 0x037D, 1⟩,
   ⟨0x0390, 0x0390, 1⟩, ⟨0x03AC, 0x03CE, 1⟩, ⟨0x03D0, 0x03D1, 1⟩, ⟨0x03D5, 0x03D7, 1⟩,
   ⟨0x03D9, 0x03EF, 2⟩, ⟨0x03F0, 0x03F3, 1⟩, ⟨0x03F5, 0x03F5, 1⟩, ⟨0x03F8, 0x03F8, 1⟩,
   ⟨0x03FB, 0x03FC, 1⟩, ⟨0x0430, 0x045F, 1⟩, ⟨0x0461, 0x0481, 2⟩, ⟨0x048B, 0x04BF, 2⟩,
   ⟨0x04C2, 0x04CE, 2⟩, ⟨0x04CF, 0x052F, 2⟩, ⟨0x0560, 0x0588, 1⟩, ⟨0x10D0, 0x10FA, 1⟩,
   ⟨0x10FC, 0x10FF, 1⟩, ⟨0x13F8, 0x13FD, 1⟩, ⟨0x1C80, 0x1C88, 1⟩, ⟨0x1C8A, 0x1C8A, 1⟩,
   ⟨0x1D00, 0x1DBF, 1⟩, ⟨0x1E01, 0x1E95, 2⟩, ⟨0x1E96, 0x1E9D, 1⟩, ⟨0x1E9F, 0x1EFF, 2⟩,
   ⟨0x1F00, 0x1F07, 1⟩, ⟨0x1F10, 0x1F15, 1⟩, ⟨0x1F20, 0x1F27, 1⟩, ⟨0x1F30, 0x1F37, 1⟩,
   ⟨0x1F40, 0x1F45, 1⟩, ⟨0x1F50, 0x1F57, 1⟩, ⟨0x1F60, 0x1F67, 1⟩, ⟨0x1F70, 0x1F7D, 1⟩,
   ⟨0x1F80, 0x1F87, 1⟩, ⟨0x1F90, 0x1F97, 1⟩, ⟨0x1FA0, 0x1FA7, 1⟩, ⟨0x1FB0, 0x1FB4, 1⟩,
   ⟨0x1FB6, 0x1FB7, 1⟩, ⟨0x1FBE, 0x1FBE, 1⟩, ⟨0x1FC2, 0x1FC4, 1⟩, ⟨0x1FC6, 0x1FC7, 1⟩,
   ⟨0x1FD0, 0x1FD3, 1⟩, ⟨0x1FD6, 0x1FD7, 1⟩, ⟨0x1FE0, 0x1FE7, 1⟩, ⟨0x1FF2, 0x1FF4, 1⟩,
   ⟨0x1FF6, 0x1FF7, 1⟩, ⟨0x2071, 0x2071, 1⟩, ⟨0x207F, 0x207F, 1⟩, ⟨0x2090, 0x209C, 1⟩,
   ⟨0x210A, 0x210A, 1⟩, ⟨0x210E, 0x210F, 1⟩, ⟨0x2113, 0x2113, 1⟩, ⟨0x212F, 0x212F, 1⟩,
   ⟨0x2134, 0x2134, 1⟩, ⟨0x2139, 0x2139, 1⟩, ⟨0x213C, 0x213D, 1⟩, ⟨0x2146, 0x2149, 1⟩,
   ⟨0x214E, 0x214E, 1⟩, ⟨0x2170, 0x217F, 1⟩, ⟨0x2184, 0x2184, 1⟩, ⟨0x24D0, 0x24E9, 1⟩,
   ⟨0x2C30, 0x2C5F, 1⟩, ⟨0x2C61, 0x2C61, 1⟩, ⟨0x2C65, 0x2C66, 1⟩, ⟨0x2C68, 0x2C6C, 2⟩,
   ⟨0x2C71, 0x2C73, 2⟩, ⟨0x2C74, 0x2C76, 2⟩, ⟨0x2C77, 0x2C7D, 1⟩, ⟨0x2C81, 0x2CE3, 2⟩,
   ⟨0x2CE4, 0x2CE4, 1⟩, ⟨0x2CEC, 0x2CEE, 2⟩, ⟨0x2CF3, 0x2CF3, 1⟩, ⟨0x2D00, 0x2D25, 1⟩,
   ⟨0x2D27, 0x2D27, 1⟩, ⟨0x2D2D, 0x2D2D, 1⟩, ⟨0xA641, 0xA66D, 2⟩, ⟨0xA681, 0xA69B, 2⟩,
   ⟨0xA69C, 0xA69D, 1⟩, ⟨0xA723, 0xA72F, 2⟩, ⟨0xA730, 0xA731, 1⟩, ⟨0xA733, 0xA76F, 2⟩,
   ⟨0xA770, 0xA778, 1⟩, ⟨0xA77A, 0xA77C, 2⟩, ⟨0xA77F, 0xA787, 2⟩, ⟨0xA78C, 0xA78E, 2⟩,
   ⟨0xA791, 0xA793, 2⟩, ⟨0xA794, 0xA795, 1⟩, ⟨0xA797, 0xA7A9, 2⟩, ⟨0xA7AF, 0xA7AF, 1⟩,
   ⟨0xA7B5, 0xA7C3, 2⟩, ⟨0xA7C8, 0xA7CA, 2⟩, ⟨0xA7CD, 0xA7CD, 1⟩, ⟨0xA7D1, 0xA7DB, 2⟩,
   ⟨0xA7F2, 0xA7F4, 1⟩, ⟨0xA7F6, 0xA7F8, 2⟩, ⟨0xA7F9, 0xA7FA, 1⟩, ⟨0xAB30, 0xAB5A, 1⟩,
   ⟨0xAB5C, 0xAB69, 1⟩, ⟨0xAB70, 0xABBF, 1⟩, ⟨0xFB00, 0xFB06, 1⟩, ⟨0xFB13, 0xFB17, 1⟩,
   ⟨0xFF41, 0xFF5A, 1⟩]

/-- The digits beyond ASCII of the category `Nd`. -/
def digitRanges : List CharRange :=
  [⟨0x0660, 0x0669, 1⟩, ⟨0x06F0, 0x06F9, 1⟩, ⟨0x07C0, 0x07C9, 1⟩, ⟨0x0966, 0x096F, 1⟩,
   ⟨0x09E6, 0x09EF, 1⟩, ⟨0x0A66, 0x0A6F, 1⟩, ⟨0x0AE6, 0x0AEF, 1⟩, ⟨0x0B66, 0x0B6F, 1⟩,
   ⟨0x0BE6, 0x0BEF, 1⟩, ⟨0x0C66, 0x0C6F, 1⟩, ⟨0x0CE6, 0x0CEF, 1⟩, ⟨0x0D66, 0x0D6F, 1⟩,
   ⟨0x0DE6, 0x0DEF, 1⟩, ⟨0x0E50, 0x0E59, 1⟩, ⟨0x0ED0, 0x0ED9, 1⟩, ⟨0x0F20, 0x0F29, 1⟩,
   ⟨0x1040, 0x1049, 1⟩, ⟨0x1090, 0x1099, 1⟩, ⟨0x17E0, 0x17E9, 1⟩, ⟨0x1810, 0x1819, 1⟩,
   ⟨0x1946, 0x194F, 1⟩, ⟨0x19D0, 0x19D9, 1⟩, ⟨0x1A80, 0x1A89, 1⟩, ⟨0x1A90, 0x1A99, 1⟩,
   ⟨0x1B50, 0x1B59, 1⟩, ⟨0x1BB0, 0x1BB9, 1⟩, ⟨0x1C40, 0x1C49, 1⟩, ⟨0x1C50, 0x1C59, 1⟩,
   ⟨0xA620, 0xA629, 1⟩, ⟨0xA8D0, 0xA8D9, 1⟩, ⟨0xA900, 0xA909, 1⟩, ⟨0xA9D0, 0xA9D9, 1⟩,
   ⟨0xA9F0, 0xA9F9, 1⟩, ⟨0xAA50, 0xAA59, 1⟩, ⟨0xABF0, 0xABF9, 1⟩, ⟨0xFF10, 0xFF19, 1⟩]

/-- What is not ASCII and has a lower case of its own. -/
def upperCaseRanges : List CharRange :=
  [⟨0x00C0, 0x00D6, 1⟩, ⟨0x00D8, 0x00DE, 1⟩, ⟨0x0100, 0x0136, 2⟩, ⟨0x0139, 0x0147, 2⟩,
   ⟨0x014A, 0x0176, 2⟩, ⟨0x0178, 0x0179, 1⟩, ⟨0x017B, 0x017B, 1⟩, ⟨0x017D, 0x017D, 1⟩,
   ⟨0x0181, 0x0182, 1⟩, ⟨0x0184, 0x0184, 1⟩, ⟨0x0186, 0x0187, 1⟩, ⟨0x0189, 0x018B, 1⟩,
   ⟨0x018E, 0x0191, 1⟩, ⟨0x0193, 0x0194, 1⟩, ⟨0x0196, 0x0198, 1⟩, ⟨0x019C, 0x019D, 1⟩,
   ⟨0x019F, 0x01A0, 1⟩, ⟨0x01A2, 0x01A2, 1⟩, ⟨0x01A4, 0x01A4, 1⟩, ⟨0x01A6, 0x01A7, 1⟩,
   ⟨0x01A9, 0x01A9, 1⟩, ⟨0x01AC, 0x01AC, 1⟩, ⟨0x01AE, 0x01AF, 1⟩, ⟨0x01B1, 0x01B3, 1⟩,
   ⟨0x01B5, 0x01B5, 1⟩, ⟨0x01B7, 0x01B8, 1⟩, ⟨0x01BC, 0x01BC, 1⟩, ⟨0x01C4, 0x01C5, 1⟩,
   ⟨0x01C7, 0x01C8, 1⟩, ⟨0x01CA, 0x01CB, 1⟩, ⟨0x01CD, 0x01DB, 2⟩, ⟨0x01DE, 0x01EE, 2⟩,
   ⟨0x01F1, 0x01F2, 1⟩, ⟨0x01F4, 0x01F4, 1⟩, ⟨0x01F6, 0x01F8, 1⟩, ⟨0x01FA, 0x0232, 2⟩,
   ⟨0x023A, 0x023B, 1⟩, ⟨0x023D, 0x023E, 1⟩, ⟨0x0241, 0x0241, 1⟩, ⟨0x0243, 0x0246, 1⟩,
   ⟨0x0248, 0x024E, 2⟩, ⟨0x0370, 0x0370, 1⟩, ⟨0x0372, 0x0372, 1⟩, ⟨0x0376, 0x0376, 1⟩,
   ⟨0x037F, 0x037F, 1⟩, ⟨0x0386, 0x0386, 1⟩, ⟨0x0388, 0x038A, 1⟩, ⟨0x038C, 0x038C, 1⟩,
   ⟨0x038E, 0x038F, 1⟩, ⟨0x0391, 0x03A1, 1⟩, ⟨0x03A3, 0x03AB, 1⟩, ⟨0x03CF, 0x03CF, 1⟩,
   ⟨0x03D8, 0x03EE, 2⟩, ⟨0x03F4, 0x03F4, 1⟩, ⟨0x03F7, 0x03F7, 1⟩, ⟨0x03F9, 0x03FA, 1⟩,
   ⟨0x03FD, 0x042F, 1⟩, ⟨0x0460, 0x0480, 2⟩, ⟨0x048A, 0x04BE, 2⟩, ⟨0x04C0, 0x04C1, 1⟩,
   ⟨0x04C3, 0x04CD, 2⟩, ⟨0x04D0, 0x052E, 2⟩, ⟨0x0531, 0x0556, 1⟩, ⟨0x10A0, 0x10C5, 1⟩,
   ⟨0x10C7, 0x10C7, 1⟩, ⟨0x10CD, 0x10CD, 1⟩, ⟨0x13A0, 0x13F5, 1⟩, ⟨0x1C89, 0x1C89, 1⟩,
   ⟨0x1C90, 0x1CBA, 1⟩, ⟨0x1CBD, 0x1CBF, 1⟩, ⟨0x1E00, 0x1E94, 2⟩, ⟨0x1E9E, 0x1EFE, 2⟩,
   ⟨0x1F08, 0x1F0F, 1⟩, ⟨0x1F18, 0x1F1D, 1⟩, ⟨0x1F28, 0x1F2F, 1⟩, ⟨0x1F38, 0x1F3F, 1⟩,
   ⟨0x1F48, 0x1F4D, 1⟩, ⟨0x1F59, 0x1F5F, 2⟩, ⟨0x1F68, 0x1F6F, 1⟩, ⟨0x1F88, 0x1F8F, 1⟩,
   ⟨0x1F98, 0x1F9F, 1⟩, ⟨0x1FA8, 0x1FAF, 1⟩, ⟨0x1FB8, 0x1FBC, 1⟩, ⟨0x1FC8, 0x1FCC, 1⟩,
   ⟨0x1FD8, 0x1FDB, 1⟩, ⟨0x1FE8, 0x1FEC, 1⟩, ⟨0x1FF8, 0x1FFC, 1⟩, ⟨0x2126, 0x2126, 1⟩,
   ⟨0x212A, 0x212B, 1⟩, ⟨0x2132, 0x2132, 1⟩, ⟨0x2160, 0x216F, 1⟩, ⟨0x2183, 0x2183, 1⟩,
   ⟨0x24B6, 0x24CF, 1⟩, ⟨0x2C00, 0x2C2F, 1⟩, ⟨0x2C60, 0x2C60, 1⟩, ⟨0x2C62, 0x2C64, 1⟩,
   ⟨0x2C67, 0x2C6B, 2⟩, ⟨0x2C6D, 0x2C70, 1⟩, ⟨0x2C72, 0x2C72, 1⟩, ⟨0x2C75, 0x2C75, 1⟩,
   ⟨0x2C7E, 0x2C80, 1⟩, ⟨0x2C82, 0x2CE2, 2⟩, ⟨0x2CEB, 0x2CEB, 1⟩, ⟨0x2CED, 0x2CED, 1⟩,
   ⟨0x2CF2, 0x2CF2, 1⟩, ⟨0xA640, 0xA66C, 2⟩, ⟨0xA680, 0xA69A, 2⟩, ⟨0xA722, 0xA72E, 2⟩,
   ⟨0xA732, 0xA76E, 2⟩, ⟨0xA779, 0xA779, 1⟩, ⟨0xA77B, 0xA77B, 1⟩, ⟨0xA77D, 0xA77E, 1⟩,
   ⟨0xA780, 0xA786, 2⟩, ⟨0xA78B, 0xA78B, 1⟩, ⟨0xA78D, 0xA78D, 1⟩, ⟨0xA790, 0xA790, 1⟩,
   ⟨0xA792, 0xA792, 1⟩, ⟨0xA796, 0xA7A8, 2⟩, ⟨0xA7AA, 0xA7AE, 1⟩, ⟨0xA7B0, 0xA7B4, 1⟩,
   ⟨0xA7B6, 0xA7C2, 2⟩, ⟨0xA7C4, 0xA7C7, 1⟩, ⟨0xA7C9, 0xA7C9, 1⟩, ⟨0xA7CB, 0xA7CC, 1⟩,
   ⟨0xA7D0, 0xA7D0, 1⟩, ⟨0xA7D6, 0xA7DC, 2⟩, ⟨0xA7F5, 0xA7F5, 1⟩, ⟨0xFF21, 0xFF3A, 1⟩,
   ⟨0x10400, 0x10427, 1⟩, ⟨0x104B0, 0x104D3, 1⟩, ⟨0x10570, 0x1057A, 1⟩, ⟨0x1057C, 0x1058A, 1⟩,
   ⟨0x1058C, 0x10592, 1⟩, ⟨0x10594, 0x10595, 1⟩, ⟨0x10C80, 0x10CB2, 1⟩, ⟨0x10D50, 0x10D65, 1⟩,
   ⟨0x118A0, 0x118BF, 1⟩, ⟨0x16E40, 0x16E5F, 1⟩, ⟨0x1E900, 0x1E921, 1⟩]

/-- A class by what it holds of ASCII and the ranges beyond. -/
def inClass (ascii : Nat → Bool) (ranges : List CharRange) (n : Nat) : Bool :=
  ascii n || ranges.any (·.contains n)

def isLowerCase : Nat → Bool := inClass Ascii.isLower lowerCaseRanges

def isDigit : Nat → Bool := inClass Ascii.isDigit digitRanges

/-- `toLowerCase` of the code point is another one. -/
def changesToLowerCase (n : Nat) : Bool :=
  if n < 128 then 65 ≤ n && n ≤ 90 else upperCaseRanges.any (·.contains n)

/-- The value of a digit, or of a letter of the Latin alphabet in ASCII or in full width. Each
range of digits begins with its zero. -/
def digitValue (n : Nat) : Option Nat :=
  if Ascii.isDigit n then some (n - 48)
  else if 65 ≤ n ∧ n ≤ 90 then some (n - 55)
  else if 97 ≤ n ∧ n ≤ 122 then some (n - 87)
  else if 0xFF21 ≤ n ∧ n ≤ 0xFF3A then some (n - 0xFF21 + 10)
  else if 0xFF41 ≤ n ∧ n ≤ 0xFF5A then some (n - 0xFF41 + 10)
  else (digitRanges.find? (·.contains n)).map fun r => n - r.first

def digit (n radix : Nat) : Option Nat := (digitValue n).filter (· < radix)

/-- The range holds neither ASCII nor surrogates. -/
def CharRange.Ordinary (r : CharRange) : Prop :=
  128 ≤ r.first ∧ (r.last < 0xD800 ∨ 0xDFFF < r.first) ∧ r.last < 0x10000

instance (r : CharRange) : Decidable r.Ordinary :=
  inferInstanceAs (Decidable (_ ∧ (_ ∨ _) ∧ _))

theorem ordinary_of_mem_lowerCaseRanges : ∀ r ∈ lowerCaseRanges, r.Ordinary := by
  decide +kernel

theorem ordinary_of_mem_digitRanges : ∀ r ∈ digitRanges, r.Ordinary := by decide

variable {ascii : Nat → Bool} {ranges : List CharRange} {n : Nat}

theorem ordinary_of_any_contains (h : ∀ r ∈ ranges, r.Ordinary)
    (hn : ranges.any (·.contains n) = true) :
    128 ≤ n ∧ (n < 0xD800 ∨ 0xDFFF < n ∧ n < 0x10000) := by
  rw [List.any_eq_true] at hn
  obtain ⟨r, hr, hcontains⟩ := hn
  obtain ⟨hfirst, hsurrogates, hlast⟩ := h r hr
  simp only [CharRange.contains, Bool.and_eq_true, decide_eq_true_eq] at hcontains
  omega

/-- Its ASCII members are those it is known to have. -/
theorem inClass_of_ascii (h : ∀ r ∈ ranges, r.Ordinary) (hn : n < 128) :
    inClass ascii ranges n = ascii n := by
  unfold inClass
  cases hany : ranges.any (·.contains n) with
  | false => simp
  | true =>
      have hhigh := (ordinary_of_any_contains h hany).1
      omega

/-- Its members are written in one unit. -/
theorem oneUnit_inClass (hascii : Ascii.Narrow ascii) (h : ∀ r ∈ ranges, r.Ordinary) :
    JavaString.OneUnit (inClass ascii ranges) := by
  intro n hn
  unfold inClass at hn
  rcases (Bool.or_eq_true ..).mp hn with hn | hn
  · have hlow := hascii n hn
    omega
  · exact (ordinary_of_any_contains h hn).2

theorem isLowerCase_of_ascii (h : n < 128) : isLowerCase n = Ascii.isLower n :=
  inClass_of_ascii ordinary_of_mem_lowerCaseRanges h

theorem isDigit_of_ascii (h : n < 128) : isDigit n = Ascii.isDigit n :=
  inClass_of_ascii ordinary_of_mem_digitRanges h

end Character

end CraftRelay.Client
