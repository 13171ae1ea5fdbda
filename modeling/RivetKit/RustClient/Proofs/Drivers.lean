/-
A Rust client's connection with its driver: what it refines, what the
driver relays, and that no request is handed to a driver twice.

# Two levels

Connection.lean has of a driver that it takes messages out, delivers
others and ends. `driven_refines` makes every run over ws or sse a run of
that machine, so what holds of all its states holds of the connection over
either transport. An item that is passed over is no step there; a message
that cannot be written is two.

The branches in which the other end of a channel is gone have no step
there that would match them. They are never taken: while a driver runs
its attempt is not over (`not_over`), so `try_connect` has the receiver,
and the connection the handle.

# What is relayed

`Relays` says of one driver what became of all that it was given, and
`driver_relays` that it holds in every state. Each step has a lemma for
what it moves.

# At most once

A failed `send_msg` puts its message in the queue, and `on_open` sends what
is in the queue when the next driver is there, so a request can go many
ways before a driver takes it. It is in one place all the while: an id is
counted once in `pending` and `sent` together (`Counted`), whatever the
attempts and however the tasks meet (`requests_once`). What was in the
channel of a driver that ended is lost, which is why `taken` is a part of
`sent` only.

# Sections

  - the steps of a driver
  - refinement
  - what a driver relays
  - at most once
-/
import Mathlib.Data.List.Flatten
import Mathlib.Data.List.Nodup
import RivetKit.Lib.Composition
import RivetKit.RustClient.Drivers
import RivetKit.RustClient.Proofs.ConnectionSteps
import RivetKit.RustClient.Proofs.Requests
import RivetKit.RustClient.Proofs.StartConnection

namespace RivetKit.RustClient

open Transition
open Js

-- ================================================== the steps of a driver

section

variable {Context Item Request : Type}
variable {T : Transport Context Item Request}
variable {s s' : DrivenConnection Context Item Request}
variable {d d' : Driver Context Item Request}

namespace Driver

/-- A message is taken out at the `select!`, in a context. -/
theorem take_cases {msg : ToServer} (h : d.take T msg = some d') :
    d.ended = none ∧ d.point = .select ∧ ∃ context, d.context = some context
      ∧ ((∃ request, T.write context msg = some request
          ∧ d' = { d with
            point := .write msg
            taken := d.taken ++ [msg]
            requests := d.requests ++ [request] })
        ∨ (T.write context msg = none
          ∧ d' = { d with taken := d.taken ++ [msg] })) := by
  unfold take at h
  split at h
  · next context hended hpoint hcontext =>
    refine ⟨hended, hpoint, context, hcontext, ?_⟩
    split at h
    · next request hrequest =>
      injection h with h
      exact .inl ⟨request, hrequest, h.symm⟩
    · next hrequest =>
      injection h with h
      exact .inr ⟨hrequest, h.symm⟩
  · cases h

/-- An item comes at the `select!`. -/
theorem next_cases {item : Item} (h : d.next T item = some d') :
    d.ended = none ∧ d.point = .select
      ∧ ((∃ msg, T.read item = .message msg
          ∧ d' = { d with items := d.items ++ [item], point := .deliver msg })
        ∨ (T.read item = .skip ∧ d' = { d with items := d.items ++ [item] })
        ∨ ∃ reason, T.read item = .stop reason
          ∧ d' = { d with
            items := d.items ++ [item]
            ended := some (.returned reason) }) := by
  unfold next at h
  split at h
  · next hended hpoint =>
    refine ⟨hended, hpoint, ?_⟩
    dsimp only at h
    split at h
    · next msg hread =>
      injection h with h
      exact .inl ⟨msg, hread, h.symm⟩
    · next hread =>
      injection h with h
      exact .inr (.inl ⟨hread, h.symm⟩)
    · next reason hread =>
      injection h with h
      exact .inr (.inr ⟨reason, hread, h.symm⟩)
  · cases h

theorem written_cases (h : d.written = some d') :
    d.ended = none ∧ (∃ msg, d.point = .write msg)
      ∧ d' = { d with point := .select } := by
  unfold written at h
  split at h
  · next msg hended hpoint =>
    injection h with h
    exact ⟨hended, ⟨msg, hpoint⟩, h.symm⟩
  · cases h

theorem deliver_cases {msg : ToClient}
    (h : d.deliver T = some (msg, d')) :
    d.ended = none ∧ d.point = .deliver msg
      ∧ d' = { d with
        point := .select
        context := d.context.or (T.handshake msg) } := by
  unfold deliver at h
  split at h
  · next msg' hended hpoint =>
    injection h with h
    injection h with hmsg h
    rw [← hmsg]
    exact ⟨hended, hpoint, h.symm⟩
  · cases h

theorem senderDropped_cases (h : d.senderDropped = some d') :
    d.ended = none := by
  unfold senderDropped at h
  split at h
  · next hended _ _ => exact hended
  · cases h

theorem receiverDropped_cases (h : d.receiverDropped = some d') :
    d.ended = none := by
  unfold receiverDropped at h
  split at h
  · next hended _ => exact hended
  · cases h

theorem cancel_cases (h : d.cancel = some d') :
    d.ended = none ∧ d' = { d with ended := some .cancelled } := by
  unfold cancel at h
  split at h
  · next hended =>
    injection h with h
    exact ⟨hended, h.symm⟩
  · cases h

theorem task_running (h : d.ended = none) : d.task.isEnded = false := by
  unfold task
  rw [h]
  cases d.point <;> rfl

end Driver

namespace DrivenConnection

theorem view_driver (hd : s.driver = some d) :
    s.view = { s.conn with driverTask := d.task } := by
  unfold view
  rw [hd]

theorem connStep_cases {a : ConnectionStep} (h : s.connStep a = some s') :
    a.isDriver = false ∧ ∃ conn, connectionStep s.view a = some conn
      ∧ s' = { s with
        conn
        driver := s.driver.map fun d =>
          { d with accepted := d.accepted ++ s.view.puts a }
        sent := s.sent ++ s.view.puts a } := by
  unfold connStep at h
  split at h
  · cases h
  · next ha =>
    obtain ⟨conn, hstep, hs⟩ := Option.map_eq_some_iff.mp h
    exact ⟨Bool.eq_false_iff.mpr ha, conn, hstep, hs.symm⟩

theorem connect_cases (h : s.connect T = some s') :
    ∃ conn, s.view.connect T.greetings.head? = some conn
      ∧ s' = { s with
        conn
        driver := some (.spawn T)
        sent := s.sent ++ T.greetings } := by
  obtain ⟨conn, hconnect, hs⟩ := Option.map_eq_some_iff.mp h
  exact ⟨conn, hconnect, hs.symm⟩

theorem takeOutgoing_cases (h : s.takeOutgoing T = some s') :
    ∃ d msg outgoing d', s.driver = some d
      ∧ s.conn.outgoing = msg :: outgoing ∧ d.take T msg = some d'
      ∧ s' = { s with
        conn := { s.conn with outgoing }
        driver := some d'
        taken := s.taken ++ [msg] } := by
  unfold takeOutgoing at h
  split at h
  · next d msg outgoing hd houtgoing =>
    obtain ⟨d', htake, hs⟩ := Option.map_eq_some_iff.mp h
    exact ⟨d, msg, outgoing, d', hd, houtgoing, htake, hs.symm⟩
  · cases h

theorem next_cases {item : Item} (h : s.next T item = some s') :
    ∃ d d', s.driver = some d ∧ d.next T item = some d'
      ∧ s' = { s with
        conn := noteRead s.conn (T.read item), driver := some d' } := by
  unfold DrivenConnection.next at h
  split at h
  · next d hd =>
    obtain ⟨d', hnext, hs⟩ := Option.map_eq_some_iff.mp h
    exact ⟨d, d', hd, hnext, hs.symm⟩
  · cases h

theorem written_cases (h : s.written = some s') :
    ∃ d d', s.driver = some d ∧ d.written = some d'
      ∧ s' = { s with driver := some d' } := by
  unfold written at h
  split at h
  · next d hd =>
    obtain ⟨d', hwritten, hs⟩ := Option.map_eq_some_iff.mp h
    exact ⟨d, d', hd, hwritten, hs.symm⟩
  · cases h

theorem deliver_cases (h : s.deliver T = some s') :
    ∃ d msg d', s.driver = some d ∧ s.conn.incoming.length < capacity
      ∧ d.deliver T = some (msg, d')
      ∧ s' = { s with
        conn := { s.conn with incoming := s.conn.incoming ++ [msg] }
        driver := some d' } := by
  unfold deliver at h
  split at h
  · next d hd =>
    obtain ⟨⟨_, hroom⟩, h⟩ := Option.ite_none_right_eq_some.1 h
    obtain ⟨⟨msg, d'⟩, hdeliver, hs⟩ := Option.map_eq_some_iff.mp h
    exact ⟨d, msg, d', hd, hroom, hdeliver, hs.symm⟩
  · cases h

theorem cancel_cases (h : s.cancel = some s') :
    ∃ d d', s.driver = some d ∧ s.conn.aborted = true
      ∧ d.cancel = some d' ∧ s' = { s with driver := some d' } := by
  unfold cancel at h
  split at h
  · next d hd =>
    obtain ⟨haborted, h⟩ := Option.ite_none_right_eq_some.1 h
    obtain ⟨d', hcancel, hs⟩ := Option.map_eq_some_iff.mp h
    exact ⟨d, d', hd, haborted, hcancel, hs.symm⟩
  · cases h

/-- A driver that runs is that of an attempt that is not over. -/
theorem not_over (h : Attempt s.view) (hd : s.driver = some d)
    (hended : d.ended = none) : s.conn.connectionTask.isOver = false := by
  cases hover : s.conn.connectionTask.isOver with
  | false => rfl
  | true =>
      have htask := h.ended hover
      rw [view_driver hd] at htask
      rw [Driver.task_running hended] at htask
      cases htask

/-- The handle is there while a driver runs. -/
theorem hasSender_running (h : Attempt s.view) (hd : s.driver = some d)
    (hended : d.ended = none) : s.hasSender = true := by
  have hover := not_over h hd hended
  have hdriver : s.conn.driver = s.conn.connectionTask.hasDriver := h.driver
  unfold hasSender
  cases htask : s.conn.connectionTask <;>
    simp_all [ConnectionTask.isOver, ConnectionTask.hasDriver]

/-- And so is the receiver. -/
theorem hasReceiver_running (h : Attempt s.view) (hd : s.driver = some d)
    (hended : d.ended = none) : s.hasReceiver = true := by
  have hover := not_over h hd hended
  unfold hasReceiver
  cases htask : s.conn.connectionTask <;>
    simp_all [ConnectionTask.isOver]

end DrivenConnection

-- =============================================================== refinement

open DrivenConnection

/-- A step of the connection is one there. -/
theorem connStep_run {a : ConnectionStep} (h : s.connStep a = some s') :
    connectionSystem.run s.view [a] = some s'.view := by
  obtain ⟨ha, conn, hstep, rfl⟩ := connStep_cases h
  have htask := (connectionStep_beside ha hstep).driverTask
  refine System.run_one (hstep.trans ?_)
  unfold view at htask ⊢
  dsimp only at htask ⊢
  cases hd : s.driver with
  | none =>
      rw [hd] at htask
      dsimp only [Option.map_none] at htask ⊢
      rw [← htask]
  | some d =>
      rw [hd] at htask
      dsimp only [Option.map_some, Driver.task] at htask ⊢
      rw [← htask]

theorem connect_run (h : s.connect T = some s') :
    connectionSystem.run s.view [.connect T.greetings.head?]
      = some s'.view := by
  obtain ⟨conn, hconnect, rfl⟩ := connect_cases h
  refine System.run_one (Eq.trans hconnect ?_)
  unfold ActorConnection.connect at hconnect
  split at hconnect
  · injection hconnect with hconnect
    rw [← hconnect]
    rfl
  · cases hconnect

/-- A message that cannot be written is taken out and written at once. -/
theorem takeOutgoing_run (h : s.takeOutgoing T = some s') :
    ∃ as, connectionSystem.run s.view as = some s'.view := by
  obtain ⟨d, msg, outgoing, d', hd, houtgoing, htake, rfl⟩ :=
    takeOutgoing_cases h
  obtain ⟨hended, hpoint, context, _, hwrite⟩ := Driver.take_cases htake
  have htask : d.task = .select := by
    unfold Driver.task
    rw [hended, hpoint]
  have htaken : connectionStep s.view .takeOutgoing
      = some { s.conn with outgoing, driverTask := .write msg } := by
    rw [view_driver hd, htask]
    simp only [connectionStep, ActorConnection.takeOutgoing, houtgoing]
  rcases hwrite with ⟨request, _, rfl⟩ | ⟨_, rfl⟩
  · refine ⟨[.takeOutgoing], System.run_one (htaken.trans ?_)⟩
    simp only [view, Driver.task, hended]
  · refine ⟨[.takeOutgoing, .wrote],
      System.run_two htaken (Eq.trans (b := some _) rfl ?_)⟩
    simp only [view, Driver.task, hended, hpoint]

/-- An item that is passed over is no step. -/
theorem next_run {item : Item} (h : s.next T item = some s') :
    ∃ as, connectionSystem.run s.view as = some s'.view := by
  obtain ⟨d, d', hd, hnext, rfl⟩ := next_cases h
  obtain ⟨hended, hpoint, hread⟩ := Driver.next_cases hnext
  have hview := view_driver hd
  have htask : d.task = .select := by
    unfold Driver.task
    rw [hended, hpoint]
  rcases hread with ⟨msg, hread, rfl⟩ | ⟨hread, rfl⟩ | ⟨reason, hread, rfl⟩
  · refine ⟨[.receive msg], System.run_one ?_⟩
    rw [hview, htask, hread]
    simp only [connectionSystem, connectionStep, ActorConnection.receive,
      view, noteRead, Driver.task, hended]
  · refine ⟨[], ?_⟩
    rw [hview, htask, hread]
    simp only [System.run, view, noteRead, Driver.task, hended, hpoint]
  · refine ⟨[.endDriver], System.run_one ?_⟩
    rw [hview, htask, hread]
    simp only [connectionSystem, connectionStep, ActorConnection.endDriver,
      view, noteRead, Driver.task]

theorem written_run (h : s.written = some s') :
    connectionSystem.run s.view [.wrote] = some s'.view := by
  obtain ⟨d, d', hd, hwritten, rfl⟩ := written_cases h
  obtain ⟨hended, ⟨msg, hpoint⟩, rfl⟩ := Driver.written_cases hwritten
  apply System.run_one
  rw [view_driver hd]
  simp only [connectionSystem, connectionStep, ActorConnection.wrote, view,
    Driver.task, hended, hpoint]

theorem deliver_run (h : s.deliver T = some s') :
    connectionSystem.run s.view [.deliver] = some s'.view := by
  obtain ⟨d, msg, d', hd, hroom, hdeliver, rfl⟩ := deliver_cases h
  obtain ⟨hended, hpoint, rfl⟩ := Driver.deliver_cases hdeliver
  apply System.run_one
  rw [view_driver hd]
  simp only [connectionSystem, connectionStep, ActorConnection.deliver, view,
    Driver.task, hended, hpoint, hroom, if_true]

theorem cancel_run (h : s.cancel = some s') :
    connectionSystem.run s.view [.endDriver] = some s'.view := by
  obtain ⟨d, d', hd, haborted, hcancel, rfl⟩ := cancel_cases h
  obtain ⟨hended, rfl⟩ := Driver.cancel_cases hcancel
  apply System.run_one
  rw [view_driver hd]
  cases hpoint : d.point <;>
    simp [connectionSystem, connectionStep, ActorConnection.endDriver, view,
      Driver.task, hended, hpoint, haborted]

/-- The two branches of a channel whose other end is gone are never
taken. -/
theorem senderDropped_never (h : Attempt s.view) :
    s.senderDropped = none := by
  unfold DrivenConnection.senderDropped
  split
  · next d hd houtgoing =>
    cases hd' : d.senderDropped with
    | none => split <;> rfl
    | some d' =>
        rw [hasSender_running h hd (Driver.senderDropped_cases hd')]
        rfl
  · rfl

theorem receiverDropped_never (h : Attempt s.view) :
    s.receiverDropped = none := by
  unfold DrivenConnection.receiverDropped
  split
  · next d hd =>
    cases hd' : d.receiverDropped with
    | none => split <;> rfl
    | some d' =>
        rw [hasReceiver_running h hd (Driver.receiverDropped_cases hd')]
        rfl
  · rfl

/-- Step by step. -/
theorem driven_simulates (T : Transport Context Item Request) :
    Simulates (drivenSystem T) connectionSystem DrivenConnection.view where
  init s hs := by
    rw [hs]
    rfl
  step s a s' _ hview hs := by
    have hattempt := reachable_attempt hview
    cases a with
    | conn a => exact ⟨_, connStep_run hs⟩
    | connect => exact ⟨_, connect_run hs⟩
    | takeOutgoing => exact takeOutgoing_run hs
    | senderDropped => cases (senderDropped_never hattempt).symm.trans hs
    | next item => exact next_run hs
    | written => exact ⟨_, written_run hs⟩
    | deliver => exact ⟨_, deliver_run hs⟩
    | receiverDropped => cases (receiverDropped_never hattempt).symm.trans hs
    | cancel => exact ⟨_, cancel_run hs⟩

/-- Every run of a connection over a transport is one of the connection
with the driver that Connection.lean has. -/
theorem driven_refines (h : (drivenSystem T).Reachable s) :
    connectionSystem.Reachable s.view :=
  (driven_simulates T).reachable h

theorem driven_attempt (h : (drivenSystem T).Reachable s) :
    Attempt s.view :=
  (driven_simulates T).invariant (fun _ => reachable_attempt) h

/-- The text of an `Init` of the server. -/
def initText : String :=
  "\x7b\"b\":\x7b\"i\":\x7b\"ai\":\"a\",\"ci\":\"c\",\"ct\":\"t\"\x7d\x7d\x7d"

/-- serde_json, as far as the scripts below need it. -/
def scriptCrates : Crates where
  jsonToString
    | .map [("b", .map [("i", _)])] => some "\x7b\"b\":\x7b\"i\":\x7b\x7d\x7d\x7d"
    | .map [("b", .map [("ar", _)])] =>
        some "\x7b\"b\":\x7b\"ar\":\x7b\"i\":0,\"n\":\"increment\",\"a\":[]\x7d\x7d\x7d"
    | _ => none
  jsonFromStr text :=
    if text = initText then
      some (.map [("b", .map [("i", .map
        [("ai", .str "a"), ("ci", .str "c"), ("ct", .str "t")])])])
    else none
  jsonFromSlice _ := none
  cborToVec _ := none
  cborFromSlice _ := none
  base64Decode _ := none

/-- Over ws: the greeting is written, a ping and a text that is no message
are passed over, `Init` is delivered, and the server closes. -/
def wsScript : List (DrivenStep (Next Ws.Message)) :=
  [.connect, .conn .setDriver, .takeOutgoing, .written, .next (.ok .other),
    .next (.ok (.text "?")), .next (.ok (.text initText)), .deliver,
    .next (.ok .close), .conn .takeEnd]

theorem driven_refines_wsScript :
    ∃ s, (drivenSystem (ws scriptCrates .json none)).run {} wsScript = some s
      ∧ s.view.incoming = [⟨.init { ai := "a", ci := "c", ct := "t" }⟩]
      ∧ s.view.connectionTask = .destroyDriver
      ∧ connectionSystem.Reachable s.view :=
  ⟨_, rfl, rfl, rfl,
    driven_refines (T := ws scriptCrates .json none)
      (System.Reachable.run wsScript (.init rfl) rfl)⟩

-- ==================================================== what a driver relays

/-- The message that an item is read as. -/
def Reading.message? : Reading → Option ToClient
  | .message msg => some msg
  | _ => none

/-- The reason for which an item stops the loop. -/
def Reading.stop? : Reading → Option DriverStopReason
  | .stop reason => some reason
  | _ => none

/-- The reason that a task returned. -/
def DriverEnd.reason? : DriverEnd → Option DriverStopReason
  | .returned reason => some reason
  | .cancelled => none

/-- What a driver has done. -/
structure Relays (T : Transport Context Item Request)
    (s : DrivenConnection Context Item Request)
    (d : Driver Context Item Request) : Prop where
  /-- The messages that the stream gave are those `on_message` was called
  with, the ones in the channel and the one being delivered. -/
  delivered :
    s.conn.onMessages ++ s.conn.incoming ++ d.point.delivering
      = d.items.filterMap fun item => (T.read item).message?
  /-- The first of those in the channel, or out of it, that opens a context
  has opened it. -/
  context : d.context = T.context.or
    ((s.conn.onMessages ++ s.conn.incoming).findSome? T.handshake)
  /-- What was put in the outgoing channel is what the driver took out of
  it and what is in it, behind the greeting. -/
  accepted : d.accepted = d.taken ++ s.conn.outgoing
  greeting : T.greetings <+: d.accepted
  /-- It made a request of each message it took that can be written, in
  that order, all in the one context. Without a context it took none. -/
  requests : d.requests = match d.context with
    | some context => d.taken.filterMap (T.write context)
    | none => []
  waits : d.context = none → d.taken = []
  /-- It returned at the first item that stops it, for that reason, and
  not otherwise. -/
  ends : (d.items.filterMap fun item => (T.read item).stop?)
    = (d.ended.bind DriverEnd.reason?).toList
  /-- It was cancelled by a `disconnect` alone. -/
  cancelled : d.ended = some .cancelled → s.conn.disconnecting = true
  /-- The messages that all drivers have taken end with its own. -/
  last : d.taken <:+ s.taken

/-- What the driver of a state relays. -/
def RelaysAll (T : Transport Context Item Request)
    (s : DrivenConnection Context Item Request) : Prop :=
  ∀ d, s.driver = some d → Relays T s d

theorem Relays.spawn (T : Transport Context Item Request)
    {conn : ActorConnection} {sent taken : List ToServer}
    (hincoming : conn.onMessages ++ conn.incoming = [])
    (houtgoing : conn.outgoing = T.greetings) :
    Relays T ⟨conn, some (.spawn T), sent, taken⟩ (.spawn T) where
  delivered := by
    rw [hincoming]
    rfl
  context := by
    rw [hincoming]
    simp [Driver.spawn]
  accepted := by
    rw [houtgoing]
    rfl
  greeting := List.prefix_rfl
  requests := by
    simp only [Driver.spawn, List.filterMap_nil]
    cases T.context <;> rfl
  waits _ := rfl
  ends := rfl
  cancelled := nofun
  last := List.nil_suffix

/-- A step of the connection. -/
theorem connStep_relays {a : ConnectionStep} (h : RelaysAll T s)
    (hs : s.connStep a = some s') : RelaysAll T s' := by
  obtain ⟨ha, conn, hstep, rfl⟩ := connStep_cases hs
  have hbeside := connectionStep_beside ha hstep
  have haside := connectionStep_aside (a := a)
    (by rintro init rfl; cases ha) hstep
  intro d' hd'
  obtain ⟨d, hd, rfl⟩ := Option.map_eq_some_iff.mp hd'
  have hrelays := h d hd
  constructor
  · rw [hbeside.incoming]
    exact hrelays.delivered
  · rw [hbeside.incoming]
    exact hrelays.context
  · show d.accepted ++ s.view.puts a = d.taken ++ conn.outgoing
    rw [hbeside.outgoing, hrelays.accepted, List.append_assoc]
    rfl
  · exact hrelays.greeting.trans (List.prefix_append _ _)
  · exact hrelays.requests
  · exact hrelays.waits
  · exact hrelays.ends
  · exact fun hcancelled =>
      haside.disconnecting (hrelays.cancelled hcancelled)
  · exact hrelays.last

theorem connect_relays (hs : s.connect T = some s') : RelaysAll T s' := by
  obtain ⟨conn, hconnect, rfl⟩ := connect_cases hs
  unfold ActorConnection.connect at hconnect
  split at hconnect
  · injection hconnect with hconnect
    rw [← hconnect]
    rintro d ⟨rfl⟩
    refine Relays.spawn T rfl ?_
    simp only [Transport.greetings]
    cases T.greeting <;> rfl
  · cases hconnect

theorem takeOutgoing_relays (h : RelaysAll T s)
    (hs : s.takeOutgoing T = some s') : RelaysAll T s' := by
  obtain ⟨d, msg, outgoing, d', hd, houtgoing, htake, rfl⟩ :=
    takeOutgoing_cases hs
  obtain ⟨hended, hpoint, context, hcontext, hwrite⟩ :=
    Driver.take_cases htake
  have hrelays := h d hd
  have haccepted : d.accepted = (d.taken ++ [msg]) ++ outgoing := by
    rw [hrelays.accepted, houtgoing, List.append_assoc]
    rfl
  have hrequests := hrelays.requests
  have hdelivered := hrelays.delivered
  rw [hcontext] at hrequests
  rw [hpoint] at hdelivered
  have hlast : d.taken ++ [msg] <:+ s.taken ++ [msg] := by
    obtain ⟨before, hbefore⟩ := hrelays.last
    exact ⟨before, by rw [← hbefore, List.append_assoc]⟩
  rintro _ ⟨rfl⟩
  rcases hwrite with ⟨request, hrequest, rfl⟩ | ⟨hnone, rfl⟩
  · refine ⟨hdelivered, hrelays.context, haccepted, hrelays.greeting, ?_, ?_,
      hrelays.ends, hrelays.cancelled, hlast⟩
    · simp [hcontext, hrequests, List.filterMap_append, hrequest]
    · simp [hcontext]
  · refine ⟨hrelays.delivered, hrelays.context, haccepted, hrelays.greeting,
      ?_, ?_, hrelays.ends, hrelays.cancelled, hlast⟩
    · simp [hcontext, hrequests, List.filterMap_append, hnone]
    · simp [hcontext]

theorem next_relays {item : Item} (h : RelaysAll T s)
    (hs : s.next T item = some s') : RelaysAll T s' := by
  obtain ⟨d, d', hd, hnext, rfl⟩ := next_cases hs
  obtain ⟨hended, hpoint, hread⟩ := Driver.next_cases hnext
  have hrelays := h d hd
  have hdelivered := hrelays.delivered
  have hends := hrelays.ends
  rw [hpoint] at hdelivered
  rw [hended] at hends
  rintro _ ⟨rfl⟩
  rcases hread with ⟨msg, hread, rfl⟩ | ⟨hread, rfl⟩ | ⟨reason, hread, rfl⟩
  · rw [hread]
    refine ⟨?_, hrelays.context, hrelays.accepted, hrelays.greeting,
      hrelays.requests, hrelays.waits, ?_, hrelays.cancelled, hrelays.last⟩
    · simp only [List.filterMap_append, ← hdelivered]
      simp [noteRead, DriverPoint.delivering, hread, Reading.message?]
    · rw [List.filterMap_append, hends]
      simp [hended, hread, Reading.stop?]
  · rw [hread]
    refine ⟨?_, hrelays.context, hrelays.accepted, hrelays.greeting,
      hrelays.requests, hrelays.waits, ?_, hrelays.cancelled, hrelays.last⟩
    · simp only [List.filterMap_append, ← hdelivered]
      simp [noteRead, DriverPoint.delivering, hpoint, hread, Reading.message?]
    · rw [List.filterMap_append, hends]
      simp [hended, hread, Reading.stop?]
  · rw [hread]
    refine ⟨?_, hrelays.context, hrelays.accepted, hrelays.greeting,
      hrelays.requests, hrelays.waits, ?_, ?_, hrelays.last⟩
    · simp only [List.filterMap_append, ← hdelivered]
      simp [noteRead, DriverPoint.delivering, hpoint, hread, Reading.message?]
    · rw [List.filterMap_append, hends]
      simp [hread, Reading.stop?, DriverEnd.reason?]
    · intro hcancelled
      cases hcancelled

theorem written_relays (h : RelaysAll T s) (hs : s.written = some s') :
    RelaysAll T s' := by
  obtain ⟨d, d', hd, hwritten, rfl⟩ := written_cases hs
  obtain ⟨_, ⟨msg, hpoint⟩, rfl⟩ := Driver.written_cases hwritten
  have hrelays := h d hd
  have hdelivered := hrelays.delivered
  rw [hpoint] at hdelivered
  rintro _ ⟨rfl⟩
  exact { hrelays with delivered := hdelivered }

/-- The message in hand goes into the channel, and may open the context. -/
theorem deliver_relays (h : RelaysAll T s) (hs : s.deliver T = some s') :
    RelaysAll T s' := by
  obtain ⟨d, msg, d', hd, _, hdeliver, rfl⟩ := deliver_cases hs
  obtain ⟨hended, hpoint, rfl⟩ := Driver.deliver_cases hdeliver
  have hrelays := h d hd
  have hdelivered := hrelays.delivered
  have hrequests := hrelays.requests
  rw [hpoint] at hdelivered
  rintro _ ⟨rfl⟩
  refine ⟨?_, ?_, hrelays.accepted, hrelays.greeting, ?_, ?_, hrelays.ends,
    hrelays.cancelled, hrelays.last⟩
  · simp only [DriverPoint.delivering, List.append_nil] at hdelivered ⊢
    rw [← List.append_assoc]
    exact hdelivered
  · dsimp only
    have happend : ∀ l : List ToClient,
        (l ++ [msg]).findSome? T.handshake
          = (l.findSome? T.handshake).or (T.handshake msg) := by
      intro l
      rw [List.findSome?_append]
      simp
    rw [hrelays.context, ← List.append_assoc, happend, Option.or_assoc]
  · cases hcontext : d.context with
    | some context =>
        rw [hcontext] at hrequests
        exact hrequests
    | none =>
        rw [hcontext] at hrequests
        dsimp only [Option.none_or]
        rw [hrequests, hrelays.waits hcontext]
        cases T.handshake msg <;> rfl
  · intro hnone
    exact hrelays.waits (Option.or_eq_none_iff.mp hnone).1

theorem cancel_relays (hattempt : Attempt s.view) (h : RelaysAll T s)
    (hs : s.cancel = some s') : RelaysAll T s' := by
  obtain ⟨d, d', hd, haborted, hcancel, rfl⟩ := cancel_cases hs
  obtain ⟨hended, rfl⟩ := Driver.cancel_cases hcancel
  have hrelays := h d hd
  have hends := hrelays.ends
  rw [hended] at hends
  rintro _ ⟨rfl⟩
  exact { hrelays with
    ends := hends, cancelled := fun _ => hattempt.aborted haborted }

/-- In every state of every run, of whatever stream: what the driver has
read is with `on_message` or on its way, in order and once each, and what
was sent is written or on its way. -/
theorem driver_relays (h : (drivenSystem T).Reachable s)
    (hd : s.driver = some d) : Relays T s d := by
  refine System.Reaches.invariant (P := RelaysAll T) ?_ ?_ h d hd
  · intro s hs d hd
    rw [hs] at hd
    cases hd
  · intro s a s' hreach ih _ hs
    have hattempt := driven_attempt hreach.reachable
    cases a with
    | conn a => exact connStep_relays ih hs
    | connect => exact connect_relays hs
    | takeOutgoing => exact takeOutgoing_relays ih hs
    | senderDropped => cases (senderDropped_never hattempt).symm.trans hs
    | next item => exact next_relays ih hs
    | written => exact written_relays ih hs
    | deliver => exact deliver_relays ih hs
    | receiverDropped => cases (receiverDropped_never hattempt).symm.trans hs
    | cancel => exact cancel_relays hattempt ih hs

/-- Over sse: a request waits in the channel until `Init` has brought the
ids that it is posted with. -/
def sseScript : List (DrivenStep (Next Sse.SSE)) :=
  [.connect, .conn .setDriver, .conn (.action "increment" []),
    .conn (.lockDriver (.caller 0)), .conn (.sendOk (.caller 0)),
    .next (.ok .connected), .next (.ok (.event initText)), .deliver,
    .takeOutgoing, .conn .recv]

theorem driver_relays_sseScript :
    ∃ s d, (drivenSystem (sse scriptCrates "http://127.0.0.1" .json)).run {}
        sseScript = some s
      ∧ s.driver = some d
      ∧ (d.requests.map fun request => (request.url, request.headers))
        = [("http://127.0.0.1/actors/message",
          [("X-AC-Encoding", "json"), ("X-AC-Actor", "a"), ("X-AC-Conn", "c"),
            ("X-AC-Conn-Token", "t")])]
      ∧ Relays (sse scriptCrates "http://127.0.0.1" .json) s d :=
  ⟨_, _, rfl, rfl, rfl,
    driver_relays (System.Reachable.run sseScript (.init rfl) rfl) rfl⟩

-- ============================================================= at most once

/-- The ids of the requests among messages. -/
def requestIds (msgs : List ToServer) : List Int :=
  msgs.flatMap ActorConnection.requestId

theorem requestIds_append (msgs msgs' : List ToServer) :
    requestIds (msgs ++ msgs') = requestIds msgs ++ requestIds msgs' :=
  List.flatMap_append

/-- An id that `action` gave out is in one place at most, the others in
none. -/
structure Counted (s : DrivenConnection Context Item Request) : Prop where
  counter : 0 ≤ s.conn.rpcCounter
  count : ∀ id, s.conn.pending.count id + (requestIds s.sent).count id
    ≤ if 0 ≤ id ∧ id < s.conn.rpcCounter then 1 else 0
  taken : (s.taken ++ s.conn.outgoing).Sublist s.sent

/-- A step that moves no request. -/
theorem Counted.frame (h : Counted s)
    (hpending : s'.conn.pending = s.conn.pending)
    (hcounter : s'.conn.rpcCounter = s.conn.rpcCounter)
    (hsent : s'.sent = s.sent)
    (htaken : s'.taken ++ s'.conn.outgoing = s.taken ++ s.conn.outgoing) :
    Counted s' := by
  refine ⟨?_, ?_, ?_⟩
  · rw [hcounter]
    exact h.counter
  · rw [hpending, hcounter, hsent]
    exact h.count
  · rw [htaken, hsent]
    exact h.taken

/-- A step of the connection: a request goes on, and one may be new. -/
theorem connStep_counted {a : ConnectionStep} (h : Counted s)
    (hs : s.connStep a = some s') : Counted s' := by
  obtain ⟨ha, conn, hstep, rfl⟩ := connStep_cases hs
  have hbeside := connectionStep_beside ha hstep
  have hcounter : s.conn.rpcCounter ≤ conn.rpcCounter := hbeside.counter
  refine ⟨h.counter.trans hcounter, ?_, ?_⟩
  · intro id
    have hpending : conn.pending.count id
          + (requestIds (s.view.puts a)).count id
        ≤ s.conn.pending.count id
          + if s.conn.rpcCounter ≤ id ∧ id < conn.rpcCounter then 1 else 0 :=
      hbeside.pending id
    have hcount := h.count id
    have hzero := h.counter
    dsimp only
    rw [requestIds_append, List.count_append]
    split_ifs at hpending hcount ⊢ <;> omega
  · have houtgoing : conn.outgoing = s.conn.outgoing ++ s.view.puts a :=
      hbeside.outgoing
    dsimp only
    rw [houtgoing, ← List.append_assoc]
    exact h.taken.append_right _

/-- A greeting is no request. -/
theorem requestIds_greetings (T : Transport Context Item Request) :
    requestIds T.greetings = [] := by
  unfold Transport.greetings
  cases T.greeting <;> rfl

theorem connect_counted (h : Counted s) (hs : s.connect T = some s') :
    Counted s' := by
  obtain ⟨conn, hconnect, rfl⟩ := connect_cases hs
  unfold ActorConnection.connect at hconnect
  split at hconnect
  · next htask =>
    injection hconnect with hconnect
    rw [← hconnect]
    refine ⟨h.counter, ?_, ?_⟩
    · intro id
      have hcount := h.count id
      have htask' : s.conn.connectionTask = .idle := htask
      rw [ActorConnection.count_pending, htask'] at hcount
      rw [ActorConnection.count_pending]
      dsimp only
      rw [requestIds_append, requestIds_greetings, List.append_nil]
      exact hcount
    · have htaken : s.taken.Sublist s.sent :=
        (List.sublist_append_left _ _).trans h.taken
      have hgreetings : T.greetings.head?.toList = T.greetings := by
        unfold Transport.greetings
        cases T.greeting <;> rfl
      dsimp only
      rw [hgreetings]
      exact htaken.append_right _
  · cases hconnect

theorem takeOutgoing_counted (h : Counted s)
    (hs : s.takeOutgoing T = some s') : Counted s' := by
  obtain ⟨d, msg, outgoing, d', _, houtgoing, _, rfl⟩ := takeOutgoing_cases hs
  refine h.frame rfl rfl rfl ?_
  rw [houtgoing, List.append_assoc]
  rfl

theorem next_counted {item : Item} (h : Counted s)
    (hs : s.next T item = some s') : Counted s' := by
  obtain ⟨_, _, _, _, rfl⟩ := next_cases hs
  cases hread : T.read item <;> exact h.frame rfl rfl rfl rfl

/-- Every run. -/
theorem reachable_counted (h : (drivenSystem T).Reachable s) :
    Counted s := by
  refine System.Reaches.invariant ?_ ?_ h
  · intro s hs
    rw [hs]
    exact ⟨le_rfl, fun id => Nat.zero_le _, List.Sublist.refl _⟩
  · intro s a s' hreach ih _ hs
    have hattempt := driven_attempt hreach.reachable
    cases a with
    | conn a => exact connStep_counted ih hs
    | connect => exact connect_counted ih hs
    | takeOutgoing => exact takeOutgoing_counted ih hs
    | senderDropped => cases (senderDropped_never hattempt).symm.trans hs
    | next item => exact next_counted ih hs
    | written =>
        obtain ⟨_, _, _, _, rfl⟩ := written_cases hs
        exact ih.frame rfl rfl rfl rfl
    | deliver =>
        obtain ⟨_, _, _, _, _, _, rfl⟩ := deliver_cases hs
        exact ih.frame rfl rfl rfl rfl
    | receiverDropped => cases (receiverDropped_never hattempt).symm.trans hs
    | cancel =>
        obtain ⟨_, _, _, _, _, rfl⟩ := cancel_cases hs
        exact ih.frame rfl rfl rfl rfl

/-- What the drivers of a connection have taken of its requests. -/
structure AtMostOnce (s : DrivenConnection Context Item Request) : Prop where
  once : (requestIds s.taken).Nodup
  called : ∀ id ∈ requestIds s.taken, s.conn.Called id
  gone : ∀ id ∈ requestIds s.taken, id ∉ s.conn.pending

/-- Over all attempts, the drivers take the request of an action once at
most, and what one of them has taken is nowhere left to be sent. -/
theorem requests_once (h : (drivenSystem T).Reachable s) :
    AtMostOnce s := by
  have hcounted := reachable_counted h
  have hsub : (requestIds s.taken).Sublist (requestIds s.sent) :=
    ((List.sublist_append_left _ _).trans hcounted.taken).flatMap _
  have hone : ∀ id, (requestIds s.taken).count id + s.conn.pending.count id
      ≤ if 0 ≤ id ∧ id < s.conn.rpcCounter then 1 else 0 := by
    intro id
    have hcount := hcounted.count id
    have hle := hsub.count_le id
    omega
  refine ⟨List.nodup_iff_count_le_one.mpr ?_, ?_, ?_⟩
  · intro id
    have := hone id
    split_ifs at this <;> omega
  · intro id hid
    have hpos := List.count_pos_iff.mpr hid
    have := hone id
    split_ifs at this with hcalled
    · exact hcalled
    · omega
  · intro id hid hpending
    have hpos := List.count_pos_iff.mpr hid
    have hpos' := List.count_pos_iff.mpr hpending
    have := hone id
    split_ifs at this <;> omega

/-- The first driver ends, so the request fails to be sent, waits in the
queue, and is flushed to the second driver, which takes it. -/
def retryScript : List (DrivenStep (Next Ws.Message)) :=
  [.connect, .conn .setDriver, .conn (.action "increment" []),
    .next .closed, .conn (.lockDriver (.caller 0)),
    .conn (.sendFails (.caller 0)), .conn (.pushQueue (.caller 0)),
    .conn .takeEnd, .conn .destroyDriver, .connect, .conn .setDriver,
    .takeOutgoing, .written, .next (.ok (.text initText)), .deliver,
    .conn .recv, .conn (.openSubscriptions []), .conn .openQueue,
    .conn (.lockDriver .connection), .conn (.sendOk .connection),
    .takeOutgoing]

theorem requests_once_retryScript :
    ∃ s, (drivenSystem (ws scriptCrates .json none)).run {} retryScript
        = some s
      ∧ requestIds s.taken = [0] ∧ AtMostOnce s :=
  ⟨_, rfl, rfl,
    requests_once (T := ws scriptCrates .json none)
      (System.Reachable.run retryScript (.init rfl) rfl)⟩

end

end RivetKit.RustClient
