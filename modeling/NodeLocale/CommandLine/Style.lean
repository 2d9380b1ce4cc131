/-!
# Styled lines

What commands print is made of lines, and lines are made of spans with a style. Without colours
the styles have no effect. With colours a styled span is enclosed in escape sequences, and where
its text ends a style by itself the style is resumed.
-/

namespace NodeLocale.CommandLine

/-- The colours. -/
inductive Color
  | red
  | green
  | yellow
  | blue
  | cyan
deriving DecidableEq

/-- The style of a span. -/
structure Style where
  bold : Bool := false
  dimmed : Bool := false
  color : Option Color := none
deriving DecidableEq

/-- A piece of a line with a style. -/
structure Span where
  text : String
  style : Style := {}
deriving DecidableEq

/-- A line. -/
abbrev Line := List Span

/-- The number of a colour in escape sequences. -/
def Color.code : Color → String
  | red => "31"
  | green => "32"
  | yellow => "33"
  | blue => "34"
  | cyan => "36"

namespace Style

/-- The numbers of a style in an escape sequence. -/
def codes (style : Style) : List String :=
  (if style.bold then ["1"] else []) ++ (if style.dimmed then ["2"] else []) ++
    (style.color.map Color.code).toList

/-- The escape sequence that begins a style. -/
def opening (style : Style) : List Char :=
  '\x1b' :: '[' :: (String.intercalate ";" style.codes).toList ++ ['m']

/-- The escape sequence that ends all styles. -/
def closing : List Char := ['\x1b', '[', '0', 'm']

/-- Resumes a style wherever a text ends all styles. -/
def resume (style : Style) : List Char → List Char
  | '\x1b' :: '[' :: '0' :: 'm' :: rest => closing ++ style.opening ++ style.resume rest
  | c :: rest => c :: style.resume rest
  | [] => []

end Style

/-- The text of a span, with or without colours. -/
def Span.render (colored : Bool) (span : Span) : String :=
  if colored && !span.style.codes.isEmpty then
    String.ofList (span.style.opening ++ span.style.resume span.text.toList ++ Style.closing)
  else span.text

/-- The text of a line, with or without colours. -/
def Line.render (colored : Bool) (line : Line) : String :=
  String.join (line.map (Span.render colored)) ++ "\n"

/-- The text of lines, with or without colours. -/
def renderLines (colored : Bool) (lines : List Line) : String :=
  String.join (lines.map (Line.render colored))

/-- A span without a style. -/
def plain (text : String) : Span := { text }

def inColor (color : Color) (text : String) : Span := { text, style := { color := some color } }

def boldIn (color : Color) (text : String) : Span :=
  { text, style := { bold := true, color := some color } }

def dimmed (text : String) : Span := { text, style := { dimmed := true } }

end NodeLocale.CommandLine
