/-
`createWebSocketProxy` (drivers/engine/ws-proxy.ts): the arguments with
which it opens the connection to the guard.

The messages that the two sockets pass on are not part of this module.
-/
import RivetKit.Lib.Headers

namespace RivetKit.Drivers.Engine

open Http

/-- Whether a header of the client is passed on. -/
def isForwarded (k : String) : Bool :=
  !"sec-".toList.isPrefixOf k.toList && k ≠ "connection"
    && k ≠ "upgrade"

/-- What `new WebSocket(url, { headers })` is called with. -/
structure Target where
  url : String
  headers : Record
  deriving DecidableEq

/-- The handlers that `createWebSocketProxy` returns, by what they
close over. -/
structure UpgradeWebSocketArgs where
  targetUrl : String
  headers : Record

/-- `createWebSocketProxy`. The loop writes into the object that it was
given. -/
def createWebSocketProxy (clientHeaders : Headers) (targetUrl : String)
    (headers : Record) : UpgradeWebSocketArgs :=
  { targetUrl := targetUrl
    headers := clientHeaders.entries.foldl
      (fun headers e =>
        if isForwarded e.1 then headers.assign e.1 e.2 else headers)
      headers }

/-- `onOpen`: nothing is opened for a client socket that is not open. -/
def UpgradeWebSocketArgs.onOpen (args : UpgradeWebSocketArgs)
    (readyState : Nat) : Option Target :=
  if readyState ≠ 1 then none
  else some { url := args.targetUrl, headers := args.headers }

end RivetKit.Drivers.Engine
