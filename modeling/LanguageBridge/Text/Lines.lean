/-! Lines of a text: a line feed ends a line, and one carriage return before it belongs to the end. -/
namespace LanguageBridge.Text

/-- `line` holds the current line backwards. -/
def linesFrom (line : List Char) : List Char → List (List Char)
  | [] => if line.isEmpty then [] else [line.reverse]
  | '\n' :: rest =>
    (match line with
      | '\r' :: body => body.reverse
      | body => body.reverse) :: linesFrom [] rest
  | c :: rest => linesFrom (c :: line) rest

def lines (text : List Char) : List (List Char) := linesFrom [] text

end LanguageBridge.Text
