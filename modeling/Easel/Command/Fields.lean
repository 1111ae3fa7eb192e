import Easel.Command.Error

namespace Easel.Command

-- The layout that all commands share: a header, which nobody looks at, a keyword, the arguments of
-- the shape and at last a color.
structure Fields where
  header    : Text
  keyword   : Text
  arguments : List Text
  color     : Text
  deriving DecidableEq

namespace Fields

def ofTokens : List Text → Except ArgumentError Fields
  | [] | [_]                  => .error (.missing .keyword)
  | [_, _]                    => .error (.missing .color)
  | header :: keyword :: a :: as =>
    let arguments := (a :: as).dropLast
    let color     := (a :: as).getLast (List.cons_ne_nil a as)
    .ok { header, keyword, arguments, color }

-- How many tokens the command has.
def tokenCount (f : Fields) : Nat :=
  f.arguments.length + 3

-- The last token may be made of blanks, and is no name then.
def colorName (f : Fields) : Except ArgumentError ColorName :=
  match ColorName.ofText? f.color with
  | some name => .ok name
  | none      => .error (.missing .color)

end Fields
end Easel.Command
