/-!
# Styled text

Text with the control sequences of a terminal around it.
-/

namespace RibTree.Style

set_option autoImplicit false

/-- The text between two sequences with the given numbers. -/
def between (start finish : Nat) (text : String) : String :=
  s!"\x1b[{start}m" ++ text ++ s!"\x1b[{finish}m"

/-- The text in one of the eight colors; the color in force before it is not kept. -/
def color (number : Nat) (text : String) : String :=
  between (30 + number) 39 text

def red (text : String) : String := color 1 text

def green (text : String) : String := color 2 text

def yellow (text : String) : String := color 3 text

def cyan (text : String) : String := color 6 text

def bold (text : String) : String := between 1 0 text

def dim (text : String) : String := between 2 0 text

end RibTree.Style
