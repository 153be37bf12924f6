/-!
Texts and bytes. Bytes are read as a row of glyphs: the characters that they spell, and a gap for
each byte that spells none.
-/
namespace OrderDesk.Text

/-- A character, or `none` for a byte that is part of none. -/
abbrev Glyph := Option Char

/-- The bytes of a text. -/
def bytes (s : List Char) : List UInt8 :=
  s.flatMap String.utf8EncodeChar

/-- The character that the first bytes spell. -/
def firstChar? (bs : List UInt8) : Option Char :=
  (bs.take 4).toByteArray.utf8DecodeChar? 0

/-- The glyphs of the bytes after the first `skip`. -/
def glyphsAfter : Nat → List UInt8 → List Glyph
  | _, [] => []
  | skip + 1, _ :: rest => glyphsAfter skip rest
  | 0, b :: rest =>
    match firstChar? (b :: rest) with
    | some c => some c :: glyphsAfter (c.utf8Size - 1) rest
    | none => none :: glyphsAfter 0 rest

/-- The glyphs that the bytes spell. -/
def glyphs (bs : List UInt8) : List Glyph :=
  glyphsAfter 0 bs

/-- The characters of a row of glyphs without gaps. -/
def spelled? : List Glyph → Option (List Char)
  | [] => some []
  | none :: _ => none
  | some c :: rest => (spelled? rest).map (c :: ·)

/-- The text that the bytes spell, if they spell one throughout. -/
def ofBytes? (bs : List UInt8) : Option (List Char) :=
  spelled? (glyphs bs)

end OrderDesk.Text
