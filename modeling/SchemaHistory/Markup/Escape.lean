/-!
Text inside double quotes. Four characters are written as named entities; reading them back in one
pass from the left gives the text again.
-/

namespace SchemaHistory.Markup

set_option autoImplicit false

def escapeChar : Char → List Char
  | '&' => "&amp;".toList
  | '<' => "&lt;".toList
  | '>' => "&gt;".toList
  | '"' => "&quot;".toList
  | char => [char]

def escapeChars (text : List Char) : List Char := text.flatMap escapeChar

def escape (text : String) : String := .ofList (escapeChars text.toList)

/-- Replaces the four entities by what they stand for, in one pass from the left. -/
def unescapeChars : List Char → List Char
  | '&' :: 'a' :: 'm' :: 'p' :: ';' :: rest => '&' :: unescapeChars rest
  | '&' :: 'l' :: 't' :: ';' :: rest => '<' :: unescapeChars rest
  | '&' :: 'g' :: 't' :: ';' :: rest => '>' :: unescapeChars rest
  | '&' :: 'q' :: 'u' :: 'o' :: 't' :: ';' :: rest => '"' :: unescapeChars rest
  | char :: rest => char :: unescapeChars rest
  | [] => []

def unescape (text : String) : String := .ofList (unescapeChars text.toList)

theorem escapeChars_cons (char : Char) (rest : List Char) :
    escapeChars (char :: rest) = escapeChar char ++ escapeChars rest := by
  simp [escapeChars]

theorem escapeChars_append (left right : List Char) :
    escapeChars (left ++ right) = escapeChars left ++ escapeChars right := by
  simp [escapeChars]

end SchemaHistory.Markup
