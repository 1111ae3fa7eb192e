import Easel.Text

namespace Easel

structure Color where
  red   : UInt8
  green : UInt8
  blue  : UInt8
  deriving DecidableEq

namespace Color

def black : Color :=
  ⟨0, 0, 0⟩

def text (c : Color) : Text :=
  "rgb(".toList ++ Text.ofNat c.red.toNat ++ ' ' :: Text.ofNat c.green.toNat ++
    ' ' :: Text.ofNat c.blue.toNat ++ [')']

end Color
end Easel
