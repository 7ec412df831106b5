import Bashling.Text.Ranges

/-!
# Digits

Two kinds of character count as digits in Unicode 14. A *decimal* digit (general category `Nd`)
belongs to a decade: ten consecutive code points that stand for zero to nine, so the offset in a
run of decades, modulo ten, is its value. The other digits (raised, lowered, circled and so on)
look like digits and open a number, but have no place in a positional numeral.
-/

namespace Bashling.Text

/-- Runs of whole decades. -/
def decades : Ranges :=
  [(0x0030, 0x0039), (0x0660, 0x0669), (0x06f0, 0x06f9), (0x07c0, 0x07c9), (0x0966, 0x096f),
   (0x09e6, 0x09ef), (0x0a66, 0x0a6f), (0x0ae6, 0x0aef), (0x0b66, 0x0b6f), (0x0be6, 0x0bef),
   (0x0c66, 0x0c6f), (0x0ce6, 0x0cef), (0x0d66, 0x0d6f), (0x0de6, 0x0def), (0x0e50, 0x0e59),
   (0x0ed0, 0x0ed9), (0x0f20, 0x0f29), (0x1040, 0x1049), (0x1090, 0x1099), (0x17e0, 0x17e9),
   (0x1810, 0x1819), (0x1946, 0x194f), (0x19d0, 0x19d9), (0x1a80, 0x1a89), (0x1a90, 0x1a99),
   (0x1b50, 0x1b59), (0x1bb0, 0x1bb9), (0x1c40, 0x1c49), (0x1c50, 0x1c59), (0xa620, 0xa629),
   (0xa8d0, 0xa8d9), (0xa900, 0xa909), (0xa9d0, 0xa9d9), (0xa9f0, 0xa9f9), (0xaa50, 0xaa59),
   (0xabf0, 0xabf9), (0xff10, 0xff19), (0x104a0, 0x104a9), (0x10d30, 0x10d39), (0x11066, 0x1106f),
   (0x110f0, 0x110f9), (0x11136, 0x1113f), (0x111d0, 0x111d9), (0x112f0, 0x112f9),
   (0x11450, 0x11459), (0x114d0, 0x114d9), (0x11650, 0x11659), (0x116c0, 0x116c9),
   (0x11730, 0x11739), (0x118e0, 0x118e9), (0x11950, 0x11959), (0x11c50, 0x11c59),
   (0x11d50, 0x11d59), (0x11da0, 0x11da9), (0x16a60, 0x16a69), (0x16ac0, 0x16ac9),
   (0x16b50, 0x16b59), (0x1d7ce, 0x1d7ff), (0x1e140, 0x1e149), (0x1e2f0, 0x1e2f9),
   (0x1e950, 0x1e959), (0x1fbf0, 0x1fbf9)]

theorem decades_ascending : decades.Ascending := by decide +kernel

def ornamentalDigits : Ranges :=
  [(0x00b2, 0x00b3), (0x00b9, 0x00b9), (0x1369, 0x1371), (0x19da, 0x19da), (0x2070, 0x2070),
   (0x2074, 0x2079), (0x2080, 0x2089), (0x2460, 0x2468), (0x2474, 0x247c), (0x2488, 0x2490),
   (0x24ea, 0x24ea), (0x24f5, 0x24fd), (0x24ff, 0x24ff), (0x2776, 0x277e), (0x2780, 0x2788),
   (0x278a, 0x2792), (0x10a40, 0x10a43), (0x10e60, 0x10e68), (0x11052, 0x1105a), (0x1f100, 0x1f10a)]

theorem ornamentalDigits_ascending : ornamentalDigits.Ascending := by decide +kernel

def isDigit (c : Char) : Bool :=
  decades.contains c || ornamentalDigits.contains c

/-- The value of a decimal digit, in whatever script it is written. -/
def decimalValue? (c : Char) : Option Nat :=
  (decades.offset? c.toNat).map (· % 10)

theorem isDigit_of_decimalValue? {c : Char} {value : Nat} (read : decimalValue? c = some value) :
    isDigit c = true := by
  obtain ⟨offset, found, _⟩ := Option.map_eq_some_iff.mp read
  simp [isDigit, Ranges.contains, found]

theorem decimalValue?_lt_ten {c : Char} {value : Nat} (read : decimalValue? c = some value) :
    value < 10 := by
  obtain ⟨offset, _, rfl⟩ := Option.map_eq_some_iff.mp read
  exact Nat.mod_lt _ (by decide)

end Bashling.Text
