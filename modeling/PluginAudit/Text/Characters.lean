import PluginAudit.Text.Letters

/-!
# Classes of characters

White space as patterns see it (`isBlank`), word characters (`isWord`), and the characters of
names in scripts (`isNameStart`, `isNamePart`).
-/

namespace PluginAudit.Text

/-- Unicode white space. -/
def isBlank (c : Char) : Bool :=
  let n := c.toNat
  (9 ≤ n && n ≤ 13) || n == 32 || n == 0x85 || n == 0xA0 || n == 0x1680 ||
    (0x2000 ≤ n && n ≤ 0x200A) || n == 0x2028 || n == 0x2029 || n == 0x202F || n == 0x205F ||
    n == 0x3000

def isNameStartHigh (n : Nat) : Bool :=
  inRanges nameStartRanges n || inRanges nameStartRangesHigh n

/-- A character that may begin a name: a letter, `$` or `_`. -/
def isNameStart (c : Char) : Bool :=
  if c.toNat < 128 then c.isAlpha || c == '$' || c == '_' else isNameStartHigh c.toNat

/-- A character that may continue a name. -/
def isNamePart (c : Char) : Bool :=
  if c.toNat < 128 then c.isAlphanum || c == '$' || c == '_'
  else isNameStartHigh c.toNat || inRanges namePartRanges c.toNat

/-- A letter, mark, digit, connector or join control. -/
def isWord (c : Char) : Bool :=
  let n := c.toNat
  if n < 128 then c.isAlphanum || c == '_'
  else (isNameStartHigh n || inRanges namePartRanges n || inRanges wordExtraRanges n) &&
    !inRanges wordMissingRanges n

def isDigitOfAnyScript (c : Char) : Bool :=
  c.isDigit || inRanges digitRanges c.toNat

def hexValue? (c : Char) : Option Nat :=
  if c.isDigit then some (c.toNat - 48)
  else if 'a' ≤ c && c ≤ 'f' then some (c.toNat - 87)
  else if 'A' ≤ c && c ≤ 'F' then some (c.toNat - 55)
  else none

end PluginAudit.Text
