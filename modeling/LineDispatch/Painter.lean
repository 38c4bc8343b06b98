import LineDispatch.Text

/-!
# Painting

Prompts, messages and the help listing are painted with terminal codes when
colour is on.  A painted text stands between the codes that turn its colour on
and the one that resets it; with colour off it is left as it is.
-/

namespace LineDispatch

/-- When to paint. -/
inductive ColorMode
  /-- When the messages go to a terminal. -/
  | auto
  | always
  | never
deriving DecidableEq, Repr

/-- A terminal code. -/
abbrev ColorCode := Text

namespace ColorCode

/-- The code of a rendition number. -/
def rendition (number : Text) : ColorCode := '\x1b' :: '[' :: number ++ ['m']

/-- The code for red. -/
def red : ColorCode := rendition "31"

/-- The code for yellow. -/
def yellow : ColorCode := rendition "33"

/-- The code for cyan. -/
def cyan : ColorCode := rendition "36"

/-- The code for bold. -/
def bold : ColorCode := rendition "1"

/-- The code for dimmed. -/
def dim : ColorCode := rendition "2"

/-- The code that ends all others. -/
def reset : ColorCode := rendition "0"

end ColorCode

/-- Paints texts, or leaves them plain. -/
structure Painter where
  enabled : Bool := false
deriving DecidableEq, Repr

namespace Painter

/-- The painter that leaves all texts as they are. -/
def plain : Painter := ⟨false⟩

/-- The painter of a mode where messages do not go to a terminal. -/
def ofMode (mode : ColorMode) : Painter := ⟨mode = .always⟩

/-- A text under one code. -/
def wrap (p : Painter) (t : Text) (code : ColorCode) : Text :=
  if p.enabled then code ++ t ++ ColorCode.reset else t

/-- A text under two codes. -/
def wrapBoth (p : Painter) (t : Text) (first second : ColorCode) : Text :=
  if p.enabled then first ++ second ++ t ++ ColorCode.reset else t

/-- A failure, in red. -/
def error (p : Painter) (t : Text) : Text := p.wrap t .red

/-- A line that no command answers to, in yellow. -/
def warn (p : Painter) (t : Text) : Text := p.wrap t .yellow

/-- A prompt, in bold cyan. -/
def prompt (p : Painter) (t : Text) : Text := p.wrapBoth t .bold .cyan

/-- A header, in bold. -/
def header (p : Painter) (t : Text) : Text := p.wrap t .bold

/-- A usage line, dimmed. -/
def dim (p : Painter) (t : Text) : Text := p.wrap t .dim

end Painter

end LineDispatch
