import OptionSchema.Text.Table.Alphabetic
import OptionSchema.Text.Table.Case
import OptionSchema.Text.Table.Numeric
import OptionSchema.Text.Table.Printable

/-!
# Classes of characters

Blanks, letters, digits and visible characters. Each class is decided by the character alone: the
ASCII part by the core predicates, the rest by a table.
-/

namespace OptionSchema.Text

/-- Whether a character is white space (the property White_Space). -/
def isBlank (c : Char) : Bool :=
  let code := c.toNat
  (9 ≤ code && code ≤ 13) || code == 0x20 || code == 0x85 || code == 0xA0 || code == 0x1680 ||
    (0x2000 ≤ code && code ≤ 0x200A) || code == 0x2028 || code == 0x2029 || code == 0x202F ||
    code == 0x205F || code == 0x3000

def isAscii (c : Char) : Bool :=
  c.toNat < 0x80

/-- Whether a character is a letter (the property Alphabetic) or a number. -/
def isAlphanumeric (c : Char) : Bool :=
  if isAscii c then c.isAlphanum else listed Table.alphabetic c || listed Table.numeric c

def isCapital (c : Char) : Bool :=
  if isAscii c then c.isUpper else listed Table.uppercase c

def isSmall (c : Char) : Bool :=
  if isAscii c then c.isLower else listed Table.lowercase c

def isCased (c : Char) : Bool :=
  if isAscii c then c.isAlpha else listed Table.cased c

/-- Whether a character is skipped in the search for a neighbouring cased letter. -/
def isCaseIgnorable (c : Char) : Bool :=
  if isAscii c then c == '\'' || c == '.' || c == ':' || c == '^' || c == '\x60'
  else listed Table.caseIgnorable c

/-- Whether a character is a letter that is drawn as nothing, a filler of the Korean alphabet. -/
def isFiller (c : Char) : Bool :=
  c == '\u115F' || c == '\u1160' || c == '\u3164' || c == '\uFFA0'

/-- Whether a character is drawn into the one before it (the property Grapheme_Extend). The
halfwidth voicing marks have the property but a place of their own. -/
def isAttached (c : Char) : Bool :=
  listed Table.graphemeExtend c && c != '\uFF9E' && c != '\uFF9F'

/-- Whether a character is visible by itself: neither a control, format or separator character
(the space apart), nor private or unassigned, nor a filler, nor drawn into the one before it. -/
def isVisible (c : Char) : Bool :=
  if isAscii c then 0x20 ≤ c.toNat && c.toNat < 0x7F
  else !listed Table.unprintable c && !isFiller c && !isAttached c

end OptionSchema.Text
