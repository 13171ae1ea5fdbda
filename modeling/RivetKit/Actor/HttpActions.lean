/-
HTTP actions and the connections that are made for them: `handleAction`
(actor/router-endpoints.ts) with `createConn` and `__removeConn`
(actor/instance.ts).

# One request

`handleAction` reads the request, loads the actor and waits for
`prepareConn` (`preparing`). `createConn` puts the connection in its tables
and then calls `onConnect` (`connecting`); of a connection over HTTP neither
`disconnect` nor `_sendMessage` does anything. Once it has returned, `conn`
is assigned (`connected`), the action runs, and the `finally` removes the
connection whatever comes of the action.

# A hook that throws

What `onConnect` throws is caught and logged with `stringifyError`. Where
that throws in its turn (the error is a revoked `Proxy`, or its `message` is
a symbol), `createConn` is rejected, `conn` is never assigned, and the
`finally` finds nothing to remove.

# The others

All that the instance does beside: connections of other kinds, messages,
the sweep, `_stop`, saves. A message for a connection of a request comes by
`handleConnectionMessage`, which finds it in the map and does not wait
before it subscribes.
-/
import RivetKit.Actor.ActionReplies
import RivetKit.Actor.SubscriptionIndex

namespace RivetKit.Actor

open Transition
open Js

-- ============================================================== the requests

/-- Where a `handleAction` is. -/
inductive HandlePc
  | preparing
  | connecting (c : Nat)
  | connected (c : Nat)
  | settled
  deriving DecidableEq

/-- A call of `handleAction`, and the connection that was made for it. -/
structure HandleAction where
  pc : HandlePc := .preparing
  made : Option Nat := none
  deriving DecidableEq

/-- An instance with its HTTP actions. -/
structure HttpActor where
  actor : LiveInstance
  requests : List HandleAction := []

/-- The steps. `onConnect` returns or throws what it is given; `other` is a
step of the instance. -/
inductive HttpStep
  | handleAction
  | prepareFails (i : Nat)
  | createConn (i : Nat) (connectionId connectionToken : String)
      (params state authData : Value)
  | onConnect (i : Nat) (thrown : Option (Raised Value))
  | actionEnds (i : Nat)
  | other (a : LiveStep)

namespace HttpActor

variable (codec : Codec) (opts : ActorOptions)

/-- Replace a request. -/
def setRequest (s : HttpActor) (i : Nat) (request : HandleAction) :
    HttpActor :=
  { s with requests := s.requests.set i request }

/-- The request is malformed, there is no actor, or `prepareConn` is
rejected. -/
def prepareFails (s : HttpActor) (i : Nat) : Option HttpActor :=
  match s.requests[i]? with
  | some request =>
      if request.pc = .preparing then
        some (s.setRequest i { request with pc := .settled })
      else none
  | none => none

/-- `createConn` up to its hook. The id is one of `generateConnId`. -/
def createConn (s : HttpActor) (i : Nat)
    (connectionId connectionToken : String) (params state authData : Value) :
    Option HttpActor :=
  match s.requests[i]? with
  | some request =>
      if request.pc = .preparing ∧ s.actor.FreshId connectionId then
        match s.actor.createConn opts connectionId connectionToken params
            state .http (.obj []) authData with
        | some actor =>
            let c := s.actor.conns.length
            some { s.setRequest i { pc := .connecting c, made := some c } with
              actor := actor }
        -- `createConn` throws before it has done anything
        | none => some (s.setRequest i { request with pc := .settled })
      else none
  | none => none

/-- `onConnect` returns, with or without a promise, or throws. -/
def onConnect (s : HttpActor) (i : Nat) (thrown : Option (Raised Value)) :
    Option HttpActor :=
  match s.requests[i]? with
  | some request =>
      match request.pc with
      | .connecting c =>
          match thrown.map Raised.stringifyError with
          | some (.error _) =>
              some (s.setRequest i { request with pc := .settled })
          | _ => some (s.setRequest i { request with pc := .connected c })
      | _ => none
  | none => none

/-- The action is not found, throws, is too late or returns: the
`finally`. -/
def actionEnds (s : HttpActor) (i : Nat) : Option HttpActor :=
  match s.requests[i]? with
  | some request =>
      match request.pc with
      | .connected c =>
          some { s.setRequest i { request with pc := .settled } with
            actor := s.actor.removeConn opts c }
      | _ => none
  | none => none

/-- What else the instance may do. -/
def admits (s : HttpActor) : LiveStep → Bool
  | .addSubscription _ c =>
      s.requests.all (fun request => request.made ≠ some c)
        || s.actor.connections.any fun entry => entry.2 = c
  | _ => true

/-- One step. -/
def step (s : HttpActor) : HttpStep → Option HttpActor
  | .handleAction => some { s with requests := s.requests ++ [{}] }
  | .prepareFails i => s.prepareFails i
  | .createConn i id token params state authData =>
      s.createConn opts i id token params state authData
  | .onConnect i thrown => s.onConnect i thrown
  | .actionEnds i => s.actionEnds opts i
  | .other a =>
      if s.admits a then
        (indexStep codec opts s.actor a).map fun actor =>
          { s with actor := actor }
      else none

end HttpActor

/-- The runs of an instance with its HTTP actions, from a record that it has
read. -/
def httpSystem (codec : Codec) (opts : ActorOptions) :
    System HttpActor HttpStep where
  init s := ∃ (r : PersistedActor) (stateData : Value), r.AsRead
    ∧ s = { actor := .restored opts r stateData }
  step := HttpActor.step codec opts

-- ============================================================= the contract

namespace LiveInstance

/-- Something of the connection `c` is left in the tables. -/
def Remains (s : LiveInstance) (c : Nat) : Prop :=
  s.InMap c
    ∨ (∃ conn, s.conns[c]? = some conn
      ∧ conn.persist ∈ s.persistRaw.connections)
    ∨ ∃ eventName, c ∈ s.subscribers eventName

/-- The tables are the same but for the connection `c`. -/
structure SameBut (s s' : LiveInstance) (c : Nat) : Prop where
  map : s'.connections.filter (·.2 ≠ c) = s.connections.filter (·.2 ≠ c)
  persisted : ∃ conn, s'.conns[c]? = some conn
    ∧ s'.persistRaw.connections.filter (· ≠ conn.persist)
      = s.persistRaw.connections.filter (· ≠ conn.persist)
  index : ∀ eventName d, d ≠ c →
    (d ∈ s'.subscribers eventName ↔ d ∈ s.subscribers eventName)

end LiveInstance

/-- The request that a step is of. -/
def HttpStep.request? : HttpStep → Option Nat
  | .handleAction => none
  | .prepareFails i => some i
  | .createConn i _ _ _ _ _ => some i
  | .onConnect i _ => some i
  | .actionEnds i => some i
  | .other _ => none

/-- `stringifyError` prints what the hook of the request `i` throws. -/
def HttpActor.HookPrints (i : Nat) (_ : HttpActor) : HttpStep → Prop
  | .onConnect j (some thrown) =>
      j = i → ∃ text, thrown.stringifyError = .ok text
  | _ => True

/-- Once the request `i` has settled nothing of its connection is left, and
its own steps touch no other. -/
def HttpActor.LeavesNothing (codec : Codec) (opts : ActorOptions)
    (s : HttpActor) (i : Nat) : Prop :=
  (∀ request, s.requests[i]? = some request → request.pc = .settled →
      ∀ c, request.made = some c → ¬ s.actor.Remains c)
    ∧ ∀ (a : HttpStep) (s' : HttpActor) (request : HandleAction),
      a.request? = some i → s.step codec opts a = some s' →
      s'.requests[i]? = some request →
        match request.made with
        | none => s'.actor = s.actor
        | some c => s.actor.SameBut s'.actor c

end RivetKit.Actor
