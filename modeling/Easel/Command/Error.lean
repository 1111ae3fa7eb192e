import Easel.Shape
import Easel.Text.Quoted

namespace Easel.Command

-- The parts that every command has around its arguments.
inductive Part
  | keyword
  | color
  deriving DecidableEq

def Part.name : Part → Text
  | keyword => "shape keyword".toList
  | color   => "color".toList

-- The arguments of a command. Those of a circle have names of their own; otherwise they are the
-- coordinates of the vertices, which are counted from one.
inductive Argument
  | centerX
  | centerY
  | radius
  | x (vertex : Nat)
  | y (vertex : Nat)
  deriving DecidableEq

def Argument.name : Argument → Text
  | centerX => "cx".toList
  | centerY => "cy".toList
  | radius  => "radius".toList
  | x k     => 'x' :: Text.ofNat k
  | y k     => 'y' :: Text.ofNat k

-- Why the arguments of a shape make no sense.
inductive ArgumentError
  | missing (part : Part)
  | notAnInteger (argument : Argument) (token : Text)
  | arity (expected found : Nat)
  | danglingCoordinate (count : Nat)
  | tooFewVertices (count : Nat)
  deriving DecidableEq

def ArgumentError.message : ArgumentError → Text
  | missing part             => "missing ".toList ++ part.name
  | notAnInteger arg token   => arg.name ++ " is not an integer: ".toList ++ token.quoted
  | arity expected found     =>
    "expected ".toList ++ Text.ofNat expected ++ " arguments, got ".toList ++ Text.ofNat found
  | danglingCoordinate count => "odd number of coordinates (".toList ++ Text.ofNat count ++ [')']
  | tooFewVertices count     =>
    "a polygon needs at least 3 vertices, got ".toList ++ Text.ofNat count

-- What a complaint is about: a shape, or the command as a whole if it does not get as far as to
-- name one.
inductive Subject
  | command
  | shape (kind : Kind)
  deriving DecidableEq

def Subject.name : Subject → Text
  | command    => "command".toList
  | shape kind => kind.keyword

-- Why a command is rejected.
inductive Error
  | unsupportedShape (keyword : Text)
  | malformed (subject : Subject) (cause : ArgumentError)
  deriving DecidableEq

def Error.message : Error → Text
  | unsupportedShape keyword => "unsupported shape: ".toList ++ keyword
  | malformed subject cause  =>
    "malformed arguments for ".toList ++ subject.name ++ ": ".toList ++ cause.message

end Easel.Command
