/-
The connections of an instance as tables: what its operations do to the
map `#connections`, the persisted list and the `#subscriptionIndex`, without
the save path and the rest of the record.

`tables` reads them off an instance, `tableOp` says what a step does to
them.
-/
import RivetKit.Actor.SubscriptionIndex

namespace RivetKit.Actor

open LiveInstance (mapSet mapDelete indexAdd indexDelete)

-- =============================================================== the tables

/-- The tables. A `Conn` is its persisted object and its subscriptions;
objects and `Conn`s go by allocation. -/
structure ConnTables where
  ids : List String := []
  persisted : List Nat := []
  conns : List (Nat × List String) := []
  connections : List (String × Nat) := []
  index : List (String × List Nat) := []

/-- The operations. -/
inductive TableOp
  | keep
  | create (id : String)
  | remove (c : Nat)
  | subscribe (eventName : String) (c : Nat)
  | unsubscribe (eventName : String) (c : Nat)

namespace ConnTables

/-- `createConn`. -/
def create (t : ConnTables) (id : String) : ConnTables :=
  { t with
    ids := t.ids ++ [id]
    persisted := t.persisted ++ [t.ids.length]
    conns := t.conns ++ [(t.ids.length, [])]
    connections := mapSet t.connections id t.conns.length }

/-- The persisted list without the first object of this id. -/
def unlist (t : ConnTables) (id : String) : List Nat :=
  match t.persisted.findIdx? fun ref => t.ids[ref]?.any (· == id) with
  | some connIdx => t.persisted.eraseIdx connIdx
  | none => t.persisted

/-- `__removeConn`. -/
def remove (t : ConnTables) (c : Nat) : ConnTables :=
  match t.conns[c]? with
  | none => t
  | some conn =>
      let id := t.ids[conn.1]?.getD ""
      { t with
        persisted := t.unlist id
        connections := mapDelete t.connections id
        index := conn.2.foldl
          (fun index eventName => indexDelete index eventName c) t.index }

/-- `#addSubscription`. -/
def subscribe (t : ConnTables) (eventName : String) (c : Nat) :
    ConnTables :=
  match t.conns[c]? with
  | none => t
  | some conn =>
      if eventName ∈ conn.2 then t
      else
        { t with
          conns := t.conns.modify c fun conn =>
            (conn.1, conn.2 ++ [eventName])
          index := indexAdd t.index eventName c }

/-- `#removeSubscription`. -/
def unsubscribe (t : ConnTables) (eventName : String) (c : Nat) :
    ConnTables :=
  match t.conns[c]? with
  | none => t
  | some conn =>
      if eventName ∉ conn.2 then t
      else
        { t with
          conns := t.conns.modify c fun conn =>
            (conn.1, conn.2.erase eventName)
          index := indexDelete t.index eventName c }

/-- An operation. -/
def apply (t : ConnTables) : TableOp → ConnTables
  | .keep => t
  | .create id => t.create id
  | .remove c => t.remove c
  | .subscribe eventName c => t.subscribe eventName c
  | .unsubscribe eventName c => t.unsubscribe eventName c

end ConnTables

-- ============================================================= the instance

/-- The tables of an instance. -/
def LiveInstance.tables (s : LiveInstance) : ConnTables where
  ids := s.persistRaw.connObjects.map (·.connId)
  persisted := s.persistRaw.connections
  conns := s.conns.map fun conn => (conn.persist, conn.subscriptions)
  connections := s.connections
  index := s.subscriptionIndex

/-- What a step does to them. -/
def LiveStep.tableOp : LiveStep → TableOp
  | .createConn id _ _ _ _ _ _ => .create id
  | .removeConn c => .remove c
  | .addSubscription eventName c => .subscribe eventName c
  | .removeSubscription eventName c => .unsubscribe eventName c
  | _ => .keep

end RivetKit.Actor
