import ClassHarvest.Text.Property

/-!
# Quoted text

How a text is shown inside a message: between single quotes, or between double quotes if it holds a
single and no double one, with escapes for what cannot be printed.
-/

namespace ClassHarvest.Text

/-- The escape of a code point that cannot be printed, as short as its number allows. -/
def numericEscape (c : CodePoint) : Text :=
  if c.val < 0x100 then "\\x" ++ hex 2 c.val
  else if c.val < 0x10000 then "\\u" ++ hex 4 c.val
  else "\\U" ++ hex 8 c.val

/-- A code point as it stands between quotes of the given kind. -/
def quotedPoint (quote c : CodePoint) : Text :=
  if c = quote || c.val = 92 then [('\\' : CodePoint), c]
  else if c.val = 9 then "\\t"
  else if c.val = 10 then "\\n"
  else if c.val = 13 then "\\r"
  else if c.isPrintable then [c]
  else numericEscape c

/-- The quote that a text is shown in. -/
def quoteFor (t : Text) : CodePoint :=
  if t.any (·.val == 39) && !t.any (·.val == 34) then '"' else '\''

/-- A text in quotes. -/
def quoted (t : Text) : Text :=
  let quote := quoteFor t
  quote :: t.flatMap (quotedPoint quote) ++ [quote]

end ClassHarvest.Text
