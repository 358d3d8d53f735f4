import HybridTx.Script.Command

/-! The words and operators that a script is cut into, and what can be wrong with their order. -/

namespace HybridTx.Script

/-- Words that shape commands where a command may begin. -/
inductive Keyword
  | bang | caseOf | doBody | done | elseIf | elseBody | esac | fi | forEach | ifTest | inWords
  | thenBody | untilTest | whileTest | opening | closing
deriving DecidableEq, Repr

namespace Keyword

/-- The keywords and their spellings. -/
def spellings : List (String × Keyword) :=
  [("!", bang), ("case", caseOf), ("do", doBody), ("done", done), ("elif", elseIf),
    ("else", elseBody), ("esac", esac), ("fi", fi), ("for", forEach), ("if", ifTest),
    ("in", inWords), ("then", thenBody), ("until", untilTest), ("while", whileTest),
    ("\x7b", opening), ("\x7d", closing)]

/-- The spelling of a keyword. -/
def spelling (keyword : Keyword) : String :=
  ((spellings.find? (·.2 = keyword)).map (·.1)).getD ""

end Keyword

/-- The arrows of redirections. -/
inductive Arrow
  | read
  | write (force : Bool)
  | append
  | readWrite
  | sameIn
  | sameOut
  | document (stripTabs : Bool)
deriving DecidableEq, Repr

/-- A unit of a script. -/
inductive Token
  | finish
  | newline
  | semicolon
  | background
  | both
  | either
  | pipe
  | opening
  | closing
  | armEnd
  | redirect (stream : Nat) (arrow : Arrow)
  | word (word : Word)
  | keyword (keyword : Keyword)

namespace Token

/-- How a token is named in complaints. -/
def describe : Token → String
  | finish => "end of file"
  | newline => "newline"
  | semicolon => "\";\""
  | background => "\"&\""
  | both => "\"&&\""
  | either => "\"||\""
  | pipe => "\"|\""
  | opening => "\"(\""
  | closing => "\")\""
  | armEnd => "\";;\""
  | redirect _ _ => "redirection"
  | word _ => "word"
  | keyword k => "\"" ++ k.spelling ++ "\""

/-- Ends a list of commands that is part of another command. -/
def endsList : Token → Bool
  | finish | closing | armEnd => true
  | keyword k => k ∈ [.doBody, .done, .elseIf, .elseBody, .esac, .fi, .thenBody, .closing]
  | _ => false

/-- A token of the same kind, words aside from what they hold. -/
def sameAs : Token → Token → Bool
  | finish, finish | newline, newline | semicolon, semicolon | background, background
  | both, both | either, either | pipe, pipe | opening, opening | closing, closing
  | armEnd, armEnd | redirect _ _, redirect _ _ | word _, word _ => true
  | keyword k, keyword l => k = l
  | _, _ => false

/-- The keyword that a word spells where keywords count. -/
def promote : Token → Token
  | word w => match w.plain?.bind fun text => Keyword.spellings.lookup text with
    | some k => keyword k
    | none => word w
  | token => token

end Token

/-- What can be wrong with the form of a script. -/
inductive SyntaxError
  | unexpected (found : Token)
  | expecting (found wanted : Token)
  | openQuote
  | openBrace
  | openSum
  | openOutput
  | loopVariable
  | functionName
  | streamNumber

/-- The wording of a fault in the form of a script. -/
def SyntaxError.message : SyntaxError → String
  | unexpected found => "Syntax error: " ++ found.describe ++ " unexpected"
  | expecting found wanted =>
    "Syntax error: " ++ found.describe ++ " unexpected (expecting " ++ wanted.describe ++ ")"
  | openQuote => "Syntax error: Unterminated quoted string"
  | openBrace => "Syntax error: Missing '\x7d'"
  | openSum => "Syntax error: Missing '))'"
  | openOutput => "Syntax error: EOF in backquote substitution"
  | loopVariable => "Syntax error: Bad for loop variable"
  | functionName => "Syntax error: Bad function name"
  | streamNumber => "Syntax error: Bad fd number"

end HybridTx.Script
