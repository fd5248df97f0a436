import CardCatalog.Text

/-!
# Styles

Emphasis on a terminal: an escape sequence before the text and another one behind it.
-/

namespace CardCatalog

/-- The sequences that start and end an emphasis. -/
structure Style where
  start : Text
  stop : Text

namespace Style

/-- Bold letters. -/
def bold : Style := ⟨"\x1b[1m", "\x1b[0m"⟩

/-- Faint letters. -/
def dimmed : Style := ⟨"\x1b[2m", "\x1b[0m"⟩

/-- Yellow letters. -/
def yellow : Style := ⟨"\x1b[33m", "\x1b[39m"⟩

/-- Bold green letters. -/
def boldGreen : Style := ⟨"\x1b[1m\x1b[32m", "\x1b[39m\x1b[0m"⟩

/-- The text with the emphasis if colors are on, as it is otherwise. -/
def paint (style : Style) (colors : Bool) (t : Text) : Text :=
  if colors then style.start ++ t ++ style.stop else t

end Style

end CardCatalog
