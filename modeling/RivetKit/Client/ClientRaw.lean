/-
The connections of a client, and `dispose` (`ClientRaw` of
client/client.ts, `dispose` of client/actor-conn.ts).

`dispose` of the client goes through the set of its connections and
disposes of each. Disposing of a connection takes it out of the set, and
runs code of others in the middle: listeners of the abort signal, and a
socket whose other end is in the same process. That code may connect, and
dispose of anything. The state has the stack of what has been called and
has not returned; while a call of others is on top, or the stack is empty,
anything may be called.

Connections are numbered in the order they are made. What a connection does
otherwise is in `RivetKit.Client.ActorConnRaw`.

# History

`byUser` and `byClient` say whose call disposed of a connection; both have
its `#disposed` set. `ended` is how many connections had been made when the
loop of `dispose` ended.
-/
import RivetKit.Lib.LiveSet
import RivetKit.Lib.System

namespace RivetKit.Client

open Transition
open Js

namespace ClientRaw

/-- What is on the stack. -/
inductive Frame
  /-- `#abortController.abort()` of a connection's `dispose`. -/
  | abort (conn : Nat)
  /-- The close of its transport. -/
  | close (conn : Nat)
  /-- The loop of the client's `dispose`. -/
  | loop (l : Loop Nat)
  deriving DecidableEq

end ClientRaw

open ClientRaw

/-- A client. A promise of `disposePromises` is the connection's, and
whether this call disposed of it; otherwise it resolves at once. -/
structure ClientRaw where
  disposed : Bool := false
  actorConns : LiveSet Nat := .empty
  made : Nat := 0
  stack : List Frame := []
  disposePromises : List (Nat × Bool) := []
  /-- Connections whose `dispose` has run to its end. -/
  finished : List Nat := []
  resolved : Bool := false
  byUser : List Nat := []
  byClient : List Nat := []
  ended : Option Nat := none

namespace ClientRaw

/-- The steps. -/
inductive Step
  /-- `connect` of a handle. -/
  | connect
  | dispose
  /-- `dispose` of a connection, which is not called by the client. -/
  | disposeConn (conn : Nat)
  /-- The call of others on top returns. -/
  | ret
  /-- The loop of `dispose` goes on. -/
  | internal
  /-- The `dispose` of a connection ends: its transport has closed, or
  there was nothing to wait for. -/
  | finish (conn : Nat)
  /-- The promise of `dispose` resolves. -/
  | resolve

/-- `#disposed` of a connection. -/
def isDisposed (s : ClientRaw) (conn : Nat) : Bool :=
  decide (conn ∈ s.byUser) || decide (conn ∈ s.byClient)

/-- `[CREATE_ACTOR_CONN_PROXY]`. -/
def createActorConnProxy (s : ClientRaw) : ClientRaw :=
  { s with made := s.made + 1, actorConns := s.actorConns.add s.made }

/-- `dispose` of a connection, up to what `abort` calls. -/
def disposeConn (conn : Nat) (byClient : Bool) (s : ClientRaw) : ClientRaw :=
  if s.isDisposed conn then s
  else if byClient then
    { s with
      byClient := s.byClient ++ [conn]
      stack := .abort conn :: s.stack }
  else
    { s with
      byUser := s.byUser ++ [conn]
      stack := .abort conn :: s.stack }

/-- A deletion from the set, in the history of a frame. -/
def deleteIn (conn : Nat) (set : LiveSet Nat) : Frame → Frame
  | .loop l => .loop (l.delete conn set)
  | f => f

/-- `dispose` of a connection behind `abort`. -/
def removeConn (conn : Nat) (s : ClientRaw) : ClientRaw :=
  { s with
    actorConns := s.actorConns.delete conn
    stack := .close conn :: s.stack.map (deleteIn conn s.actorConns) }

/-- `dispose`, up to its loop. -/
def dispose (s : ClientRaw) : ClientRaw :=
  if s.disposed then s
  else
    { s with
      disposed := true
      stack := .loop s.actorConns.loop :: s.stack }

/-- The loop of `dispose` goes on. -/
def continueLoop (l : Loop Nat) (rest : List Frame) (s : ClientRaw) :
    ClientRaw :=
  match s.actorConns.next l.index with
  | some (conn, i) =>
      { s with
        stack := .loop (l.call conn i) :: rest
        disposePromises := s.disposePromises
          ++ [(conn, !s.isDisposed conn)] }.disposeConn conn true
  | none => { s with stack := rest, ended := some s.made }

/-- Whether a call of others is on top, or nothing is. -/
def othersOnTop : List Frame → Bool
  | .loop _ :: _ => false
  | _ => true

/-- The call of others on top returns. -/
def ret (s : ClientRaw) : Option ClientRaw :=
  match s.stack with
  | .abort conn :: rest => some ({ s with stack := rest }.removeConn conn)
  | .close _ :: rest => some { s with stack := rest }
  | _ => none

/-- A promise of `disposePromises` has resolved. -/
def settled (s : ClientRaw) (promise : Nat × Bool) : Bool :=
  !promise.2 || decide (promise.1 ∈ s.finished)

/-- One step, where it can happen. -/
def step (s : ClientRaw) : Step → Option ClientRaw
  | .connect =>
      if othersOnTop s.stack then some s.createActorConnProxy else none
  | .dispose => if othersOnTop s.stack then some s.dispose else none
  | .disposeConn conn =>
      if othersOnTop s.stack ∧ conn < s.made then
        some (s.disposeConn conn false)
      else none
  | .ret => s.ret
  | .internal =>
      match s.stack with
      | .loop l :: rest => some (s.continueLoop l rest)
      | _ => none
  | .finish conn =>
      if s.stack = [] ∧ s.isDisposed conn = true then
        some { s with finished := s.finished ++ [conn] }
      else none
  | .resolve =>
      if s.stack = [] ∧ s.ended.isSome = true
          ∧ s.disposePromises.all s.settled = true then
        some { s with resolved := true }
      else none

end ClientRaw

/-- The runs of a client. -/
def clientSystem : System ClientRaw ClientRaw.Step where
  init s := s = {}
  step := ClientRaw.step

namespace ClientRaw

/-- What `dispose` does. Once its loop has ended, every connection made
until then is disposed of, and the client disposes of none that is made
later; none is disposed of twice; and once its promise has resolved, each
`dispose` that the client called and that did not return at once has run to
its end. -/
structure Disposes (s : ClientRaw) : Prop where
  covered : ∀ n, s.ended = some n → ∀ conn < n, s.isDisposed conn = true
  spared : ∀ n, s.ended = some n → ∀ conn ∈ s.byClient, conn < n
  once : (s.byUser ++ s.byClient).Nodup
  resolved : s.resolved = true →
    s.ended.isSome = true ∧ ∀ conn ∈ s.byClient, conn ∈ s.finished

end ClientRaw

end RivetKit.Client
