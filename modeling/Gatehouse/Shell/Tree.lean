/-!
# Scripts

What a script says once it is read: commands made of words, with quotes, expansions and
redirections, and the ways in which commands are put together. The text of a script is a
text of octets. A command whose output is asked for within a word stays a text, which is
read again when the word is expanded.
-/

namespace Gatehouse.Shell

/-- What an expansion makes of the value of a parameter. Where a value can be missing, the flag
says that an empty one counts as missing. -/
inductive Change
  | value
  | length
  | default (orEmpty : Bool)
  | assign (orEmpty : Bool)
  | demand (orEmpty : Bool)
  | instead (orEmpty : Bool)
  | cutFront (longest : Bool)
  | cutBack (longest : Bool)
  | unknown
deriving DecidableEq, Repr

/-- A part of a word. A quoted part is never split, and makes a word even when it is empty. -/
inductive Piece
  | text (content : List Char) (quoted : Bool)
  | parameter (name : String) (change : Change) (word : List Piece) (quoted : Bool)
  | output (script : List Char) (line : Nat) (quoted : Bool)
  | formula (word : List Piece) (quoted : Bool)
deriving Repr

/-- A word is what its pieces give, one behind the other. -/
abbrev Word := List Piece

/-- How a file is opened for a descriptor. -/
inductive Opening
  | read
  | write
  | append
deriving DecidableEq, Repr

/-- Where a descriptor of a command leads: to a file, to where another descriptor leads, or to the
document of a number. -/
inductive Redirection
  | file (descriptor : Nat) (opening : Opening) (path : Word)
  | copy (descriptor : Nat) (source : Word)
  | document (descriptor number : Nat)
deriving Repr

/-- A command, simple or made of others. Simple commands and those that expand words know the line
that they stand in. -/
inductive Tree
  | simple (line : Nat) (assignments : List (String × Word)) (words : List Word)
      (redirections : List Redirection)
  | redirected (line : Nat) (body : Tree) (redirections : List Redirection)
  | subshell (line : Nat) (body : Tree) (redirections : List Redirection)
  | background (body : Tree)
  | pipeline (stages : List Tree)
  | negation (body : Tree)
  | chain (first : Tree) (onSuccess : Bool) (second : Tree)
  | sequence (items : List Tree)
  | conditional (test body otherwise : Tree)
  | loop (untilTrue : Bool) (test body : Tree)
  | iteration (line : Nat) (name : String) (words : List Word) (body : Tree)
  | choice (line : Nat) (subject : Word) (branches : List (List Word × Tree))
  | definition (line : Nat) (name : String) (body : Tree)
deriving Repr

/-- The command that says nothing. -/
def Tree.nothing : Tree := .sequence []

instance : Inhabited Tree := ⟨.nothing⟩

/-- A redirection without its target, behind the descriptor. -/
inductive Arrow
  | read
  | write
  | append
  | copy
  | document (dropsTabs : Bool)
deriving DecidableEq, Repr

/-- The tokens of a script. A keyword is a word that stands where one can begin a command. -/
inductive Token
  | ending
  | line
  | semicolon
  | doubleSemicolon
  | ampersand
  | both
  | either
  | bar
  | openParenthesis
  | closeParenthesis
  | redirection (descriptor : Nat) (arrow : Arrow)
  | word (content : Word)
  | keyword (name : String)
deriving Repr

namespace Token

/-- A token in the words of a report. -/
def describe : Token → String
  | .ending => "end of file"
  | .line => "newline"
  | .semicolon => "\";\""
  | .doubleSemicolon => "\";;\""
  | .ampersand => "\"&\""
  | .both => "\"&&\""
  | .either => "\"||\""
  | .bar => "\"|\""
  | .openParenthesis => "\"(\""
  | .closeParenthesis => "\")\""
  | .redirection .. => "redirection"
  | .word _ => "word"
  | .keyword name => "\"" ++ name ++ "\""

/-- The words that put commands together. -/
def keywords : List String := [
  "!", "case", "do", "done", "elif", "else", "esac", "fi", "for", "if", "in", "then", "until",
  "while", "\x7b", "\x7d"]

/-- The token of a word that stands where a keyword can stand. -/
def asKeyword : Token → Token
  | .word [.text content false] =>
    let name := String.ofList content
    if name ∈ keywords then .keyword name else .word [.text content false]
  | other => other

/-- Whether a token ends a list of commands. -/
def endsList : Token → Bool
  | .ending | .closeParenthesis | .doubleSemicolon => true
  | .keyword name => name ∈ ["do", "done", "elif", "else", "esac", "fi", "then", "\x7d"]
  | _ => false

end Token

/-- Why a script cannot be read. -/
inductive ScriptError
  | openQuote
  | openBrace
  | openFormula
  | openOutput
  | badLoopName
  | badFunctionName
  | unexpected (found : Token) (expected : Option Token)
deriving Repr

/-- The words for an error. -/
def ScriptError.message : ScriptError → String
  | .openQuote => "Unterminated quoted string"
  | .openBrace => "Missing '\x7d'"
  | .openFormula => "Missing '))'"
  | .openOutput => "EOF in backquote substitution"
  | .badLoopName => "Bad for loop variable"
  | .badFunctionName => "Bad function name"
  | .unexpected found none => found.describe ++ " unexpected"
  | .unexpected found (some expected) =>
    found.describe ++ " unexpected (expecting " ++ expected.describe ++ ")"

/-- Why a script cannot be read, and the line that is read when this is found out. -/
structure ScriptFault where
  line : Nat
  cause : ScriptError
deriving Repr

/-- Characters that begin the name of a variable. -/
def isNameStart (character : Char) : Bool := character.isAlpha || character == '_'

/-- Characters that the name of a variable goes on with. -/
def isNameChar (character : Char) : Bool := character.isAlphanum || character == '_'

/-- Whether a text is the name of a variable. -/
def isName (text : String) : Bool :=
  match text.toList with
  | [] => false
  | first :: rest => isNameStart first && rest.all isNameChar

end Gatehouse.Shell
