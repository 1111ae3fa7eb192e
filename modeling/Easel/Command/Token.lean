import Easel.Text

namespace Easel.Command

-- Tokens stand apart by these four characters only: other blanks are part of a token.
def isSeparator (c : Char) : Bool :=
  c == ' ' || c == '\t' || c == '\r' || c == '\n'

-- The token under way, if it has any character yet.
def finish (word : Text) : List Text :=
  if word.isEmpty then [] else [word.reverse]

-- The tokens of a text whose first token begins with `word`, the latter with its last character
-- first.
def tokensAfter (word : Text) : Text → List Text
  | []        => finish word
  | c :: rest =>
    if isSeparator c then finish word ++ tokensAfter [] rest else tokensAfter (c :: word) rest

-- The longest runs of characters that are no separators, from left to right.
def tokens (line : Text) : List Text :=
  tokensAfter [] line

end Easel.Command
