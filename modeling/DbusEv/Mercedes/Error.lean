/-
**The exceptions of the client, and what its handlers read from them.**

An exception is an authorization error, an HTTP error response (of a request or of the WebSocket
handshake) or any other ordinary exception. Only a response has a `status` and headers.
-/

import DbusEv.Python.Value

set_option autoImplicit false

namespace DbusEv.Mercedes

/-- A `Retry-After` header: the number `float(value)`, else the date
`parsedate_to_datetime(value)`, else text that is neither. -/
inductive RetryAfter
  | seconds (value : PyFloat)
  | date (timestamp : ℚ)
  | malformed
  deriving DecidableEq, Repr

/-- The other ordinary exceptions. -/
inductive OtherError
  | os
  | value
  | type
  | key
  | timeout
  | decode
  | client
  | any
  deriving DecidableEq, Repr

/-- An ordinary exception. -/
inductive Exn
  /-- `MBAuthError` and its subclasses. -/
  | auth
  /-- `aiohttp.ClientResponseError`; with `handshake`, its subclass `WSServerHandshakeError`. -/
  | response (handshake : Bool) (status : ℤ) (retryAfter : Option RetryAfter)
  | other (kind : OtherError)
  deriving DecidableEq, Repr

namespace Exn

/-- `getattr(error, "status", None)`. -/
def status : Exn → Option ℤ
  | .response _ status _ => some status
  | _ => none

/-- `(getattr(error, "headers", None) or {}).get("Retry-After")`. -/
def retryAfter : Exn → Option RetryAfter
  | .response _ _ retryAfter => retryAfter
  | _ => none

/-- `isinstance(error, MBAuthError)`. -/
def isAuth : Exn → Bool
  | .auth => true
  | _ => false

/-- `isinstance(error, aiohttp.WSServerHandshakeError)`. -/
def isHandshake : Exn → Bool
  | .response handshake _ _ => handshake
  | _ => false

end Exn

end DbusEv.Mercedes
