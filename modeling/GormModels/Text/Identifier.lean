import GormModels.Text.Letter

/-!
The characters an identifier may start with (property XID_Start of Unicode 14, and the underscore).
-/

namespace GormModels.Text

/-- Letter numbers and other signs that start an identifier without being letters. -/
def extraStartSpans : Spans := [
  ⟨5870, 5872, 1⟩, ⟨6277, 6278, 1⟩, ⟨8472, 8472, 1⟩, ⟨8494, 8494, 1⟩, ⟨8544, 8578, 1⟩,
  ⟨8581, 8584, 1⟩, ⟨12295, 12295, 1⟩, ⟨12321, 12329, 1⟩, ⟨12344, 12346, 1⟩, ⟨42726, 42735, 1⟩,
  ⟨65856, 65908, 1⟩, ⟨66369, 66369, 1⟩, ⟨66378, 66378, 1⟩, ⟨66513, 66517, 1⟩, ⟨74752, 74862, 1⟩]

/-- Letters whose compatibility form does not start an identifier. -/
def excludedStartSpans : Spans := [
  ⟨890, 890, 1⟩, ⟨3635, 3635, 1⟩, ⟨3763, 3763, 1⟩, ⟨11823, 11823, 1⟩, ⟨64606, 64611, 1⟩,
  ⟨65018, 65019, 1⟩, ⟨65136, 65150, 2⟩, ⟨65438, 65439, 1⟩]

def isIdentifierStart (c : Char) : Bool :=
  if c.toNat < 128 then c.isAlpha || c == '_'
  else (isLetter c && !excludedStartSpans.contain c) || extraStartSpans.contain c

end GormModels.Text
