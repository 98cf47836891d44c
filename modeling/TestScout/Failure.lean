import TestScout.FileSystem
import TestScout.Json.Decode

/-!
What can go wrong between finding a declaration and launching it. A failure is a value that says why
it arose; its wording is a function of it.
-/

namespace TestScout

inductive ArgumentFault where
  | missing
  | malformed (fault : Json.DecodeError)
  | notEncodable (file : Path)
  | refused (reason : String)

def ArgumentFault.message : ArgumentFault → String
  | .missing => "expected a test declaration argument"
  | .malformed fault => fault.message
  | .notEncodable file =>
    "cannot encode " ++ file.display ++ ": path contains invalid UTF-8 characters"
  | .refused reason => reason

inductive Failure where
  | rootNotFound (file lastTried : Path)
  | invalidKind (given : String)
  | invalidArgument (fault : ArgumentFault)
  | unknownCommand (id : String)
  | io (file : Path) (fault : IoError)

def Failure.message : Failure → String
  | .rootNotFound file lastTried =>
    "can't find the root of the project for " ++ file.display ++ ", last tried " ++
      lastTried.display
  | .invalidKind given => "Invalid test declaration kind: " ++ Text.quoted given
  | .invalidArgument fault => "Invalid command argument: " ++ fault.message
  | .unknownCommand id => "Unknown command: " ++ id
  | .io file fault => "IO error at " ++ file.display ++ ": " ++ fault.message

end TestScout
