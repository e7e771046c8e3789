/-! # Digests

The 64-bit FNV-1a digest of a text, taken over its bytes in UTF-8. Built-in templates get their
identifiers from it, and the cache recognises an edited body by it.
-/

namespace Stencil.Text

/-- One step of the digest: mix in a byte, then multiply by the prime of 64-bit FNV. -/
def mixByte (digest : UInt64) (byte : UInt8) : UInt64 := (digest ^^^ byte.toUInt64) * 0x100000001b3

/-- The FNV-1a digest of a text. -/
def digest (text : String) : UInt64 :=
  (text.toList.flatMap String.utf8EncodeChar).foldl mixByte 0xcbf29ce484222325

example : digest "" = 0xcbf29ce484222325 := by decide
example : digest "a" = 0xaf63dc4c8601ec8c := by decide

end Stencil.Text
