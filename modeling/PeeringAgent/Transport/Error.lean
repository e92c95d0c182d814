/-!
# Transport errors

Why a call to the coordinator, or its stream, failed.
-/

set_option autoImplicit false

namespace PeeringAgent

inductive TransportError
  | connect (address cause : String)
  | io (cause : String)
  | codec (cause : String)
  | rejected (text : String)
  | closed
deriving DecidableEq

def TransportError.message : TransportError → String
  | connect address cause => "connection to " ++ address ++ " failed: " ++ cause
  | io cause => "i/o error: " ++ cause
  | codec cause => "malformed frame: " ++ cause
  | rejected text => "coordinator rejected call: " ++ text
  | closed => "connection closed"

end PeeringAgent
