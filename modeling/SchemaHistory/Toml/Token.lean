import SchemaHistory.Json.Token

/-!
The tokens of a TOML document, read by an automaton that takes one character at a time. Blanks and
comments end tokens and are dropped; line ends are tokens.
-/

namespace SchemaHistory.Toml

set_option autoImplicit false

inductive Token where
  | bare (text : String)
  | quoted (text : String)
  | multiline (text : String)
  | lineEnd | equals | dot | comma | openBracket | closeBracket | openBrace | closeBrace
  deriving DecidableEq

/-- The two kinds of quotes. Only inside double quotes a backslash has a meaning. -/
inductive Quote where
  | double | single
  deriving DecidableEq

def Quote.char : Quote → Char
  | .double => '"'
  | .single => '\''

/-- Where the reader of tokens stands; what has been read of a token is kept backwards. -/
inductive Lexer.Mode where
  | between
  | carriage
  | comment
  | bare (read : List Char)
  | opened (quote : Quote)
  /-- After two quotes, which are an empty string unless a third follows. -/
  | openedTwice (quote : Quote)
  | line (quote : Quote) (read : List Char)
  /-- After three quotes, where a line end is dropped. -/
  | openedThrice (quote : Quote)
  | openedThriceCarriage (quote : Quote)
  /-- Inside three quotes, after so many quotes in a row. -/
  | lines (quote : Quote) (read : List Char) (quotes : Nat)
  | linesCarriage (quote : Quote) (read : List Char)
  | escape (multiline : Bool) (read : List Char)
  | code (multiline : Bool) (read : List Char) (digits value : Nat)
  /-- In the blanks that a backslash joins, before and after the first line end. -/
  | gap (read : List Char) (ended : Bool)
  | gapCarriage (read : List Char)

structure Lexer where
  mode : Lexer.Mode
  tokens : List Token

namespace Lexer

def isBareChar (char : Char) : Bool := char.isAlphanum || char = '-' || char = '_'

def isPlain (char : Char) : Bool :=
  char = '\t' || 0x20 ≤ char.toNat && char.toNat ≠ 0x7F

def start (tokens : List Token) (char : Char) : Option Lexer :=
  match char with
  | ' ' | '\t' => some ⟨.between, tokens⟩
  | '\n' => some ⟨.between, .lineEnd :: tokens⟩
  | '\r' => some ⟨.carriage, tokens⟩
  | '#' => some ⟨.comment, tokens⟩
  | '=' => some ⟨.between, .equals :: tokens⟩
  | '.' => some ⟨.between, .dot :: tokens⟩
  | ',' => some ⟨.between, .comma :: tokens⟩
  | '[' => some ⟨.between, .openBracket :: tokens⟩
  | ']' => some ⟨.between, .closeBracket :: tokens⟩
  | '\x7b' => some ⟨.between, .openBrace :: tokens⟩
  | '\x7d' => some ⟨.between, .closeBrace :: tokens⟩
  | '"' => some ⟨.opened .double, tokens⟩
  | '\'' => some ⟨.opened .single, tokens⟩
  | _ => if isBareChar char then some ⟨.bare [char], tokens⟩ else none

def bareToken (read : List Char) : Token := .bare (.ofList read.reverse)

def lineStep (tokens : List Token) (quote : Quote) (read : List Char) (char : Char) :
    Option Lexer :=
  if char = quote.char then some ⟨.between, .quoted (.ofList read.reverse) :: tokens⟩
  else if char = '\\' ∧ quote = .double then some ⟨.escape false read, tokens⟩
  else if isPlain char then some ⟨.line quote (char :: read), tokens⟩
  else none

/-- A string in three quotes ends after the last three of up to five quotes in a row. -/
def multilineToken (quote : Quote) (read : List Char) (quotes : Nat) : Token :=
  .multiline (.ofList (List.replicate (quotes - 3) quote.char ++ read).reverse)

def linesStep (tokens : List Token) (quote : Quote) (read : List Char) (quotes : Nat)
    (char : Char) : Option Lexer :=
  if char = quote.char ∧ quotes < 5 then some ⟨.lines quote read (quotes + 1), tokens⟩
  else if 3 ≤ quotes then start (multilineToken quote read quotes :: tokens) char
  else
    let read := List.replicate quotes quote.char ++ read
    if char = '\\' ∧ quote = .double then some ⟨.escape true read, tokens⟩
    else if char = '\r' then some ⟨.linesCarriage quote read, tokens⟩
    else if char = '\n' ∨ isPlain char then some ⟨.lines quote (char :: read) 0, tokens⟩
    else none

def resume (multiline : Bool) (read : List Char) : Mode :=
  if multiline then .lines .double read 0 else .line .double read

def escape? : Char → Option Char
  | '"' => some '"'
  | '\\' => some '\\'
  | 'b' => some '\x08'
  | 'e' => some '\x1b'
  | 'f' => some '\x0c'
  | 'n' => some '\n'
  | 'r' => some '\r'
  | 't' => some '\t'
  | _ => none

def codeLength? : Char → Option Nat
  | 'x' => some 2
  | 'u' => some 4
  | 'U' => some 8
  | _ => none

def escapeStep (tokens : List Token) (multiline : Bool) (read : List Char) (char : Char) :
    Option Lexer :=
  match codeLength? char, escape? char with
  | some digits, _ => some ⟨.code multiline read digits 0, tokens⟩
  | none, some meant => some ⟨resume multiline (meant :: read), tokens⟩
  | none, none =>
      if !multiline then none
      else if char = ' ' ∨ char = '\t' then some ⟨.gap read false, tokens⟩
      else if char = '\n' then some ⟨.gap read true, tokens⟩
      else if char = '\r' then some ⟨.gapCarriage read, tokens⟩
      else none

def step (lexer : Lexer) (char : Char) : Option Lexer :=
  let tokens := lexer.tokens
  match lexer.mode with
  | .between => start tokens char
  | .carriage => if char = '\n' then some ⟨.between, .lineEnd :: tokens⟩ else none
  | .comment =>
      if char = '\n' ∨ char = '\r' then start tokens char
      else if isPlain char then some ⟨.comment, tokens⟩
      else none
  | .bare read =>
      if isBareChar char then some ⟨.bare (char :: read), tokens⟩
      else start (bareToken read :: tokens) char
  | .opened quote =>
      if char = quote.char then some ⟨.openedTwice quote, tokens⟩
      else lineStep tokens quote [] char
  | .openedTwice quote =>
      if char = quote.char then some ⟨.openedThrice quote, tokens⟩
      else start (.quoted "" :: tokens) char
  | .line quote read => lineStep tokens quote read char
  | .openedThrice quote =>
      if char = '\n' then some ⟨.lines quote [] 0, tokens⟩
      else if char = '\r' then some ⟨.openedThriceCarriage quote, tokens⟩
      else linesStep tokens quote [] 0 char
  | .openedThriceCarriage quote =>
      if char = '\n' then some ⟨.lines quote [] 0, tokens⟩ else none
  | .lines quote read quotes => linesStep tokens quote read quotes char
  | .linesCarriage quote read =>
      if char = '\n' then some ⟨.lines quote ('\n' :: '\r' :: read) 0, tokens⟩ else none
  | .escape multiline read => escapeStep tokens multiline read char
  | .code multiline read digits value => do
      let value := 16 * value + (← Json.Token.digitValue char)
      if 1 < digits then some ⟨.code multiline read (digits - 1) value, tokens⟩
      else if value.isValidChar then some ⟨resume multiline (.ofNat value :: read), tokens⟩
      else none
  | .gap read ended =>
      if char = ' ' ∨ char = '\t' then some ⟨.gap read ended, tokens⟩
      else if char = '\n' then some ⟨.gap read true, tokens⟩
      else if char = '\r' then some ⟨.gapCarriage read, tokens⟩
      else if ended then linesStep tokens .double read 0 char
      else none
  | .gapCarriage read => if char = '\n' then some ⟨.gap read true, tokens⟩ else none

def finish (lexer : Lexer) : Option (List Token) :=
  match lexer.mode with
  | .between | .comment => some lexer.tokens.reverse
  | .bare read => some (bareToken read :: lexer.tokens).reverse
  | .openedTwice _ => some (.quoted "" :: lexer.tokens).reverse
  | .lines quote read quotes =>
      if 3 ≤ quotes then some (multilineToken quote read quotes :: lexer.tokens).reverse else none
  | _ => none

end Lexer

/-- The tokens of a document, which a byte order mark may precede. -/
def tokens? (document : List Char) : Option (List Token) := do
  let text := match document with
    | '\ufeff' :: rest => rest
    | text => text
  (← text.foldlM Lexer.step ⟨.between, []⟩).finish

end SchemaHistory.Toml
