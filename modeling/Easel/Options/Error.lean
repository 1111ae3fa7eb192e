import Easel.Options.Switch
import Easel.Text.Plain

namespace Easel.Options

-- Why a command line does not lead to options: it asks for something else, or it makes no sense.
inductive Error
  | help
  | version
  | unknownArgument (argument : Text)
  | repeated (s : Switch)
  | conflict (s other : Switch)
  | missingValue (s : Switch)
  | unexpectedValue (s : Switch) (value : Text)
  | invalidChoice (s : Switch) (value : Text)
  | invalidValue (s : Switch) (value reason : Text)
  deriving DecidableEq

namespace Error

-- The complaint about a command line, in parts of which each is the wording or something that is
-- quoted. There is none if the command line asks for help or for the version.
def parts? : Error → Option (List Text)
  | help | version              => none
  | unknownArgument argument    => some ["unexpected argument '".toList, argument, "' found".toList]
  | repeated s                  =>
    some ["the argument '".toList, s.usage, "' cannot be used multiple times".toList]
  | conflict s other            =>
    some ["the argument '".toList, s.usage, "' cannot be used with '".toList, other.usage, "'".toList]
  | missingValue s              =>
    some ["a value is required for '".toList, s.usage, "' but none was supplied".toList]
  | unexpectedValue s value     =>
    some ["unexpected value '".toList, value, "' for '".toList, s.usage,
      "' found; no more were expected".toList]
  | invalidChoice s value       =>
    some ["invalid value '".toList, value, "' for '".toList, s.usage, "'".toList]
  | invalidValue s value reason =>
    some ["invalid value '".toList, value, "' for '".toList, s.usage, "': ".toList, reason]

-- Whatever comes from the command line must not steer a terminal. No part runs on into the next.
def joined (filter : Text → Text) (parts : List Text) : Text :=
  "error: ".toList ++ parts.flatMap filter

def message? (e : Error) : Option Text :=
  e.parts?.map (joined Text.plain)

-- The message as it is written to standard error.
def written? (e : Error) : Option Text :=
  e.parts?.map (joined Text.passed)

end Error
end Easel.Options
