/-
The store of `createRivetKit` (framework-base/lib/mod.ts): its entries, the
connections that it opens for them, and who may act on an entry.

# The store library

`setState` runs its updater on the state and keeps what the updater returns;
the state before is `prevState`. An effect may run after any change.
`create` changes the flags of the entry in place, inside its updater, and
starts the attempt there too. What `createActorConnection` sets at once,
where `getOrCreate` or `connect` throws, is therefore undone by the
`return prev` of the updater around it.

# Names

A handle and its connection have the number of the attempt that made them.
What else the program does with a connection is left open but for this: it
may dispose it at any time. The store never does.
-/
import RivetKit.Lib.System

namespace RivetKit.FrameworkBase

open Transition

-- ================================================================ the state

/-- The options of an actor, as far as the effect reads them: their JSON, and
whether `enabled` is true. -/
structure ActorOptions where
  json : String
  enabled : Bool
  deriving DecidableEq

/-- `ActorStateReference`. -/
structure ActorStateReference where
  hash : String
  handle : Option Nat := none
  connection : Option Nat := none
  isConnected : Bool := false
  isConnecting : Bool := false
  isError : Bool := false
  error : Option String := none
  opts : ActorOptions

/-- An entry of the store. `prevOpts` are its options in `prevState`;
`attempts` wait for their `resolve`, `opened` counts the connections opened
for it and `disposed` has those that were disposed. -/
structure StoreEntry where
  state : ActorStateReference
  prevOpts : Option ActorOptions := none
  attempts : List Nat := []
  opened : Nat := 0
  disposed : List Nat := []

/-- The connections of an entry that have not been disposed. -/
def StoreEntry.live (e : StoreEntry) : List Nat :=
  (List.range e.opened).filter (· ∉ e.disposed)

/-- The store. -/
structure RivetKitStore where
  actors : String → Option StoreEntry := fun _ => none

namespace StoreEntry

-- ============================================================== one entry

/-- `createActorConnection` up to its `await`: a connection is opened, or
`getOrCreate` or `connect` throws. -/
def createActorConnection (e : StoreEntry) (throws : Bool) : StoreEntry :=
  if throws then e
  else
    { e with
      attempts := e.attempts ++ [e.opened]
      opened := e.opened + 1 }

/-- The updater of `create`. -/
def create (e : StoreEntry) (throws : Bool) : StoreEntry :=
  createActorConnection
    { e with
      state :=
        { e.state with isConnecting := true, isError := false, error := none } }
    throws

/-- The updater of an attempt whose `resolve` has succeeded. -/
def resolved (e : StoreEntry) (n : Nat) : StoreEntry :=
  { e with
    attempts := e.attempts.erase n
    state :=
      { e.state with
        isConnected := true
        isConnecting := false
        handle := some n
        connection := some n
        isError := false
        error := none } }

/-- The updater of an attempt whose `resolve` has failed. -/
def rejected (e : StoreEntry) (n : Nat) (error : String) : StoreEntry :=
  { e with
    attempts := e.attempts.erase n
    state :=
      { e.state with
        isError := true
        isConnecting := false
        error := some error } }

/-- An updater of the program that sets the options: of the entry itself,
which `prevState` has too, or of a copy. -/
def setOpts (e : StoreEntry) (inPlace : Bool) (opts : ActorOptions) :
    StoreEntry :=
  { e with
    state := { e.state with opts := opts }
    prevOpts := if inPlace then some opts else e.prevOpts }

/-- The test of the connect effect. Without an entry in `prevState` it
throws. -/
def connects (e : StoreEntry) : Bool :=
  match e.prevOpts with
  | none => false
  | some prevOpts =>
      let isSame := prevOpts.json == e.state.opts.json
      isSame && !e.state.isConnected && !e.state.isConnecting
        && !e.state.isError && e.state.opts.enabled

end StoreEntry

-- ================================================================= the store

namespace RivetKitStore

/-- `store.setState`, with an updater for one entry. -/
def setState (s : RivetKitStore) (key : String)
    (updater : StoreEntry → StoreEntry) : RivetKitStore where
  actors k := (s.actors k).map fun e =>
    let e := { e with prevOpts := some e.state.opts }
    if k = key then updater e else e

/-- `getOrCreateActor`. The options of an entry that is there stay. -/
def getOrCreateActor (s : RivetKitStore) (key : String)
    (opts : ActorOptions) : RivetKitStore :=
  match s.actors key with
  | some _ => s
  | none =>
      { actors := fun k =>
          if k = key then some { state := { hash := key, opts } }
          else (s.setState key id).actors k }

end RivetKitStore

/-- The steps. `create` is the public one; `throws` says that no connection
was opened. -/
inductive StoreStep
  | getOrCreateActor (key : String) (opts : ActorOptions)
  | setOpts (key : String) (inPlace : Bool) (opts : ActorOptions)
  | effect (key : String) (throws : Bool)
  | create (key : String) (throws : Bool)
  | resolves (key : String) (n : Nat)
  | rejects (key : String) (n : Nat) (error : String)
  | disposes (key : String) (n : Nat)

namespace RivetKitStore

/-- One step. -/
def step (s : RivetKitStore) : StoreStep → Option RivetKitStore
  | .getOrCreateActor key opts => some (s.getOrCreateActor key opts)
  | .setOpts key inPlace opts => do
      let _ ← s.actors key
      some (s.setState key (·.setOpts inPlace opts))
  | .effect key throws => do
      let e ← s.actors key
      if e.connects then some (s.setState key (·.create throws)) else some s
  | .create key throws => do
      let _ ← s.actors key
      some (s.setState key (·.create throws))
  | .resolves key n => do
      let e ← s.actors key
      if n ∈ e.attempts then some (s.setState key (·.resolved n)) else none
  | .rejects key n error => do
      let e ← s.actors key
      if n ∈ e.attempts then some (s.setState key (·.rejected n error))
      else none
  | .disposes key n => do
      let e ← s.actors key
      if n < e.opened then
        some { actors := fun k =>
          if k = key then some { e with disposed := n :: e.disposed }
          else s.actors k }
      else none

end RivetKitStore

/-- The runs of a store. -/
def storeSystem : System RivetKitStore StoreStep where
  init s := s = {}
  step := RivetKitStore.step

-- ============================================================== the contract

/-- An entry has at most one connection that was not disposed, and that is
the one in the store or of an attempt in progress. -/
structure StoreEntry.Owns (e : StoreEntry) : Prop where
  one : e.live.length ≤ 1
  owned : ∀ n ∈ e.live, e.state.connection = some n ∨ n ∈ e.attempts

/-- `create` is called for an entry without attempt and without connection,
and an attempt fails only when its connection has been disposed. -/
def RivetKitStore.Careful (s : RivetKitStore) : StoreStep → Prop
  | .create key _ => ∀ e, s.actors key = some e →
      e.attempts = [] ∧ e.live = []
  | .rejects key n _ => ∀ e, s.actors key = some e → n ∈ e.disposed
  | _ => True

end RivetKit.FrameworkBase
