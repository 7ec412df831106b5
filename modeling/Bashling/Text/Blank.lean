import Bashling.Text.Ranges

/-!
# Blank characters

What separates two tokens: the space characters of every script (general category `Zs`) and the
characters whose bidirectional class is a paragraph, segment or white-space separator. The line
feed is one of them.
-/

namespace Bashling.Text

def blanks : Ranges :=
  [(0x0009, 0x000d), (0x001c, 0x0020), (0x0085, 0x0085), (0x00a0, 0x00a0), (0x1680, 0x1680),
   (0x2000, 0x200a), (0x2028, 0x2029), (0x202f, 0x202f), (0x205f, 0x205f), (0x3000, 0x3000)]

theorem blanks_ascending : blanks.Ascending := by decide +kernel

def isBlank (c : Char) : Bool :=
  blanks.contains c

end Bashling.Text
