/-
The task that keeps a connection of the Rust client alive
(`start_connection` of clients/rust/src/connection.rs, clients/rust/src/
backoff.rs).

Its two loops call `try_connect` over and over. What happens in
`try_connect`, and in the calls of `action`, `on_event` and `disconnect`,
are the steps of `connectionSystem`; the task decides when an attempt
begins, and takes what it returns. `disconnect` has its last await here: it
takes the receiver that the task stored when it began, and waits for what
the task sends at its end.

A mutex around the receiver is never held over an await, so its sections
are one step each. The client starts the task of a connection once.

# History

`attempts` are the attempts that another one followed, the last one first:
whether it opened, and how long the task slept behind it. `late` has, for
each attempt that began although `disconnect` had been called, where that
call was.
-/
import Mathlib.Algebra.Order.Ring.Nat
import RivetKit.RustClient.Connection

namespace RivetKit.RustClient

open Transition
open Js

-- ================================================================ backoff

/-- `Backoff`, in seconds. -/
structure Backoff where
  maxDelay : Nat
  delay : Nat
  deriving DecidableEq

/-- `Backoff::new`. -/
def Backoff.new (initial maxDelay : Nat) : Backoff := ⟨maxDelay, initial⟩

/-- `tick`, behind its sleep. -/
def Backoff.tick (b : Backoff) : Backoff :=
  { b with delay := min (b.delay * 2) b.maxDelay }

/-- A backoff that has ticked `n` times. -/
def Backoff.ticked (initial maxDelay n : Nat) : Backoff :=
  ⟨maxDelay, min (initial * 2 ^ n) maxDelay⟩

theorem Backoff.ticked_zero {initial maxDelay : Nat}
    (h : initial ≤ maxDelay) :
    Backoff.ticked initial maxDelay 0 = .new initial maxDelay := by
  unfold ticked new
  rw [Nat.pow_zero, Nat.mul_one, Nat.min_eq_left h]

theorem Backoff.tick_ticked (initial maxDelay n : Nat) :
    (Backoff.ticked initial maxDelay n).tick
      = .ticked initial maxDelay (n + 1) := by
  have hpow : initial * 2 ^ (n + 1) = initial * 2 ^ n * 2 := by
    rw [Nat.pow_succ, Nat.mul_assoc]
  have hmin : min (min (initial * 2 ^ n) maxDelay * 2) maxDelay
      = min (initial * 2 ^ (n + 1)) maxDelay := by
    rw [hpow]
    omega
  exact congrArg (Backoff.mk maxDelay) hmin

-- =============================================================== the state

namespace StartConnection

/-- Where the task is. -/
inductive Point
  /-- At `conn.disconnection_rx.lock()`. -/
  | spawned
  /-- In `try_connect`. -/
  | connecting
  /-- `try_connect` has returned. -/
  | returned (didOpen : Bool)
  /-- Behind `break 'retry`. -/
  | again
  /-- At its `select!`. -/
  | waiting
  /-- Behind `'keepalive`. -/
  | leaving
  /-- It has sent, at `conn.disconnection_rx.lock()`. -/
  | sent
  | ended
  deriving DecidableEq

/-- Where `disconnect` is. -/
inductive Closing
  /-- Not called, or not yet behind its `clear`s. -/
  | before
  /-- At `self.disconnection_rx.lock()`. -/
  | takeRx
  /-- At `rx.await`. -/
  | awaiting
  /-- It has returned. It had a receiver to wait for, or not. -/
  | returned (waited : Bool)
  deriving DecidableEq

end StartConnection

open StartConnection

/-- A connection with the task that keeps it. -/
structure KeptConnection where
  conn : ActorConnection := {}
  task : Point := .spawned
  backoff : Backoff := .new 1 30
  retryAttempt : Nat := 0
  /-- Whether `disconnection_rx` has the receiver. -/
  disconnectionRx : Bool := false
  /-- Whether `shutdown_rx` has something, or its senders are gone. -/
  shutdown : Bool := false
  closing : Closing := .before
  attempts : List (Bool × Nat) := []
  late : List Closing := []

namespace KeptConnection

-- ================================================================ the task

/-- An attempt begins. -/
def tryConnect (s : KeptConnection) : KeptConnection :=
  { s with
    task := .connecting
    late := if s.conn.disconnecting then s.closing :: s.late else s.late }

/-- An iteration of `'keepalive` begins. -/
def keepalive (s : KeptConnection) : KeptConnection :=
  { s with backoff := .new 1 30, retryAttempt := 1 }.tryConnect

/-- The task stores the receiver, and goes to its loops. -/
def store (s : KeptConnection) : Option KeptConnection :=
  if s.task = .spawned then
    some { s with disconnectionRx := true }.keepalive
  else none

/-- Whether a message is `Init`. -/
def isInit (msg : ToClient) : Bool :=
  match msg.b with
  | .init _ => true
  | _ => false

/-- `did_connection_open`. -/
def didOpen (conn : ActorConnection) : Bool := conn.onMessages.any isInit

/-- A step of the connection or of its callers. -/
def connStep (s : KeptConnection) (a : ConnectionStep) :
    Option KeptConnection :=
  match connectionStep s.conn a with
  | none => none
  | some conn =>
      match a with
      | .connect _ =>
          if s.task = .connecting then some { s with conn } else none
      | .destroyDriver =>
          some { s with conn, task := .returned (didOpen s.conn) }
      | .clearSubscriptions _ => some { s with conn, closing := .takeRx }
      | _ => some { s with conn }

/-- `connect_driver` fails. -/
def connectFails (s : KeptConnection) : Option KeptConnection :=
  match s.task, s.conn.connectionTask with
  | .connecting, .idle => some { s with task := .returned false }
  | _, _ => none

/-- What the task does with an attempt. -/
def check (s : KeptConnection) : Option KeptConnection :=
  match s.task with
  | .returned didOpen =>
      if s.conn.disconnecting then some { s with task := .leaving }
      else if didOpen then some { s with task := .again }
      else some { s with task := .waiting }
  | _ => none

/-- The next iteration of `'keepalive`. -/
def again (s : KeptConnection) : Option KeptConnection :=
  if s.task = .again then
    some { s with attempts := (true, 0) :: s.attempts }.keepalive
  else none

/-- The `select!` takes `backoff.tick()`, and `'retry` goes on. -/
def tick (s : KeptConnection) : Option KeptConnection :=
  if s.task = .waiting then
    some { s with
      attempts := (false, s.backoff.delay) :: s.attempts
      backoff := s.backoff.tick
      retryAttempt := s.retryAttempt + 1 }.tryConnect
  else none

/-- The `select!` takes `dc_rx`. -/
def takeDisconnect (s : KeptConnection) : Option KeptConnection :=
  if s.task = .waiting ∧ s.conn.disconnecting = true then
    some { s with task := .leaving }
  else none

/-- The `select!` takes `shutdown_rx`. -/
def takeShutdown (s : KeptConnection) : Option KeptConnection :=
  if s.task = .waiting ∧ s.shutdown = true then
    some { s with task := .leaving }
  else none

/-- `tx.send(())`. -/
def send (s : KeptConnection) : Option KeptConnection :=
  if s.task = .leaving then some { s with task := .sent } else none

/-- The task clears `disconnection_rx`. -/
def clear (s : KeptConnection) : Option KeptConnection :=
  if s.task = .sent then
    some { s with task := .ended, disconnectionRx := false }
  else none

-- ====================================================== end of disconnect

/-- `disconnect` takes the receiver. -/
def takeRx (s : KeptConnection) : Option KeptConnection :=
  if s.closing = .takeRx then
    if s.disconnectionRx then
      some { s with disconnectionRx := false, closing := .awaiting }
    else some { s with closing := .returned false }
  else none

/-- `rx.await` returns: the sender has sent. -/
def awaited (s : KeptConnection) : Option KeptConnection :=
  if s.closing = .awaiting ∧ (s.task = .sent ∨ s.task = .ended) then
    some { s with closing := .returned true }
  else none

end KeptConnection

-- ============================================================ the machine

namespace StartConnection

/-- The steps. -/
inductive Step
  | conn (a : ConnectionStep)
  | store
  | connectFails
  | check
  | again
  | tick
  | takeDisconnect
  | takeShutdown
  | send
  | clear
  | takeRx
  | awaited
  /-- The client is dropped. -/
  | shutdown

end StartConnection

/-- One step. -/
def keptStep (s : KeptConnection) : StartConnection.Step →
    Option KeptConnection
  | .conn a => s.connStep a
  | .store => s.store
  | .connectFails => s.connectFails
  | .check => s.check
  | .again => s.again
  | .tick => s.tick
  | .takeDisconnect => s.takeDisconnect
  | .takeShutdown => s.takeShutdown
  | .send => s.send
  | .clear => s.clear
  | .takeRx => s.takeRx
  | .awaited => s.awaited
  | .shutdown => some { s with shutdown := true }

/-- The runs of a connection that is kept. -/
def keptSystem : System KeptConnection StartConnection.Step where
  init s := s = {}
  step := keptStep

-- =========================================================== the contract

namespace StartConnection

/-- How many attempts in a row have failed, the last one first. -/
def failures (attempts : List (Bool × Nat)) : Nat :=
  (attempts.takeWhile fun attempt => !attempt.1).length

/-- Behind an attempt that opened the task does not sleep, and behind the
`k`-th of a row that fails it sleeps for `2 ^ (k - 1)` seconds, up to
thirty. -/
def Paced : List (Bool × Nat) → Prop
  | [] => True
  | (didOpen, secs) :: attempts =>
      secs = (if didOpen then 0 else min (2 ^ failures attempts) 30)
        ∧ Paced attempts

/-- Whether the task is behind its loops. -/
def Point.isOver : Point → Bool
  | .leaving | .sent | .ended => true
  | _ => false

end StartConnection

/-- What the task keeps. One attempt is made after another, by the rules of
the connection alone; none begins once a `disconnect` that had to wait has
returned, and at most one once it has been called; and the task ends for a
`disconnect` or a shutdown only. -/
structure KeptConnection.Kept (s : KeptConnection) : Prop where
  runs : connectionSystem.Reachable s.conn
  alone : s.conn.connectionTask ≠ .idle → s.task = .connecting
  paced : Paced s.attempts
  late : s.late.length ≤ 1 ∧ .returned true ∉ s.late
  awaited : s.closing = .returned true → s.task.isOver = true
  ends : s.task.isOver = true →
    s.conn.disconnecting = true ∨ s.shutdown = true

end RivetKit.RustClient
