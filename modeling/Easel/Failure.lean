import Easel.Text

namespace Easel

namespace Failure

inductive Kind
  | interrupted
  | connectionReset
  | timedOut
  | wouldBlock
  | invalidData
  | invalidInput
  | writeZero
  | notFound
  | notADirectory
  | isADirectory
  | other
  deriving DecidableEq

end Failure

-- Why reading from a connection, writing a file or drawing did not succeed.
structure Failure where
  kind    : Failure.Kind
  message : Text
  deriving DecidableEq

end Easel
