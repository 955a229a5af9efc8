import SystemCatalog.Text.Interval

/-!
# Disguised separators

Some characters are compatible with a separator of addresses: their compatibility decomposition
contains a slash, a question mark, a number sign, an at sign or a colon.
-/

namespace SystemCatalog.Text

def disguisedSeparators : List (Nat × Nat) :=
  [(0x2047, 0x2049), (0x2100, 0x2101), (0x2105, 0x2106), (0x2a74, 0x2a74), (0xfe13, 0xfe13),
   (0xfe16, 0xfe16), (0xfe55, 0xfe56), (0xfe5f, 0xfe5f), (0xfe6b, 0xfe6b), (0xff03, 0xff03),
   (0xff0f, 0xff0f), (0xff1a, 0xff1a), (0xff1f, 0xff20)]

def isDisguisedSeparator (c : Char) : Bool := covers disguisedSeparators c

end SystemCatalog.Text
