/-
**Why a text is no script.**

* `SyntaxFault.message`: the wording of a cause;
* `SyntaxError`: a cause and the place it is reported at.
-/

import ShellSession.Script.Token

namespace ShellSession.Script

/-- A cause for which a text is refused. `unexpected none` stands for the end of the text and
`stated` for a cause that a host words itself. -/
inductive SyntaxFault where
  | nameExpected
  | integerTooLarge (digits : String)
  | unclosedQuote
  | strayCharacter (c : Char)
  | unexpected (token : Option Token)
  | stated (message : String)

/-- The wording of a cause. -/
def SyntaxFault.message : SyntaxFault → String
  | nameExpected => "variable name expected after '$'"
  | integerTooLarge digits => "integer '" ++ digits ++ "' is out of range"
  | unclosedQuote => "missing closing quote"
  | strayCharacter c => "unexpected character '" ++ c.toString ++ "'"
  | unexpected (some token) => "unexpected token '" ++ token.display ++ "'"
  | unexpected none => "unexpected token 'end of input'"
  | stated message => message

/-- A cause and the place it is reported at. -/
structure SyntaxError where
  fault : SyntaxFault
  place : Place

end ShellSession.Script
