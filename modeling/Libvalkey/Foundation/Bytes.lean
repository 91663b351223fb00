import Mathlib.Data.List.Basic

/-! # Bytes -/

namespace Libvalkey

/-- The contents of a buffer. -/
abbrev Bytes := List UInt8

/-- The bytes of a text in which every character takes one byte. -/
def ascii (text : String) : Bytes := text.toList.map Char.toUInt8

end Libvalkey
