import TestScout.Failure
import TestScout.Json.Printer

/-!
Why a request is not answered: because of where the session stands, because of what is asked,
because of how it is asked, or because doing it failed. Each fault has a number, by which clients
tell faults apart, and a text.
-/

namespace TestScout

inductive RpcFault where
  | notInitialized
  | outOfTurn
  | unknownMethod (method : String)
  | unsupported
  | missingParams
  | unexpectedParams (given : Json)
  | malformedParams (fault : Json.DecodeError)
  | failed (failure : Failure)
  | internal

def Failure.code : Failure → Int
  | .unknownCommand _ => -32601
  | .invalidKind _ | .invalidArgument _ => -32602
  | .rootNotFound _ _ | .io _ _ => -32603

namespace RpcFault

def code : RpcFault → Int
  | notInitialized => -32002
  | outOfTurn => -32600
  | unknownMethod _ | unsupported => -32601
  | missingParams | unexpectedParams _ | malformedParams _ => -32602
  | failed failure => failure.code
  | internal => -32603

def message : RpcFault → String
  | notInitialized => "Server not initialized"
  | outOfTurn => "Invalid request"
  | unknownMethod _ | unsupported => "Method not found"
  | missingParams => "Missing params field"
  | unexpectedParams given => "Unexpected params: " ++ given.line
  | malformedParams fault => fault.message
  | failed failure => failure.message
  | internal => "Internal error"

/-- What is said beside the text. -/
def data? : RpcFault → Option Json
  | unknownMethod method => some (.str method)
  | _ => none

def toJson (f : RpcFault) : Json :=
  .obj ([("code", .int f.code), ("message", .str f.message)] ++
    (f.data?.map fun d => ("data", d)).toList)

end RpcFault

end TestScout
