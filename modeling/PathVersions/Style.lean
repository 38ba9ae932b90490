/-!
# Styles of terminal text
-/

namespace PathVersions
namespace Style

/-- The text that switches a style on, by its number. -/
def switch (code : String) : String := "\x1b[" ++ code ++ "m"

/-- A text in some styles, after which all styles are switched off. -/
def apply (codes : List String) (text : String) : String :=
  String.join (codes.map switch) ++ text ++ switch "0"

/-- The number of bold text. -/
def bold : String := "1"

/-- The number of dim text. -/
def dim : String := "2"

/-- The number of red text. -/
def red : String := "31"

/-- The number of green text. -/
def green : String := "32"

/-- The number of blue text. -/
def blue : String := "34"

/-- The number of cyan text. -/
def cyan : String := "36"

/-- The style of headers. -/
def header (text : String) : String := apply [bold, cyan] text

/-- The style of names of commands and parameters. -/
def command (text : String) : String := apply [bold, green] text

/-- The style of categories and of headings inside a help text. -/
def category (text : String) : String := apply [bold, blue] text

/-- The style of descriptions. -/
def description (text : String) : String := apply [dim] text

/-- The style of errors. -/
def error (text : String) : String := apply [bold, red] text

end Style
end PathVersions
