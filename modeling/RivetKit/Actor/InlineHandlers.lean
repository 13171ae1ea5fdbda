/-
The handlers that `handleWebSocketConnect` (actor/router-endpoints.ts)
returns, on an `InlineWebSocketAdapter2`.

What a handler does while one of its functions is on the stack is fixed:
that of a loaded actor only closes the socket in `onClose`, and the other
one, for an actor that could not be loaded, in `onOpen` and `onMessage`.
What `onOpen` and `onMessage` begin goes on later, at an empty stack, and
may close the socket then. The client's listeners may do anything.
-/
import RivetKit.Common.InlineWebSocket

namespace RivetKit.Actor

open Transition
open RivetKit.Common

/-- A handler: of an actor that has been loaded, or of one that could not
be, with the code of the error. -/
inductive ConnectHandler
  | loaded
  | failedLoad (code : String)
  deriving DecidableEq

/-- What the function of the handler on top does next. A call of `ws.close`
is behind it once the socket has closed. -/
def ConnectHandler.next {α : Type} (handler : ConnectHandler)
    (readyState : ReadyState) : Frame α → Option (SocketStep α)
  | .onOpen =>
      match handler with
      | .loaded => some .ret
      | .failedLoad code =>
          if readyState = .connecting then
            some (.op (.wsClose (some 1011) (some code)))
          else some .ret
  | .onMessage =>
      match handler with
      | .loaded => some .ret
      | .failedLoad _ =>
          if readyState = .opened then
            some (.op (.wsClose (some 1011) (some "Actor not loaded")))
          else some .ret
  | .onClose _ _ =>
      match handler with
      | .loaded =>
          if readyState = .closing then
            some (.op (.wsClose (some 1000) (some "hack_force_close")))
          else some .ret
      | .failedLoad _ => some .ret
  | _ => none

/-- The steps: of the function of the handler on top, or another. -/
inductive ConnectSocketStep (α : Type)
  | handler
  | other (a : SocketStep α)

/-- What comes next, if a function of the handler is on top. -/
def ConnectHandler.onTop {α : Type} (handler : ConnectHandler)
    (s : InlineWebSocket α) : Option (SocketStep α) :=
  match s.stack with
  | [] => none
  | f :: _ => handler.next s.readyState f

/-- One step. -/
def connectSocketStep {α : Type} (handler : ConnectHandler)
    (s : InlineWebSocket α) :
    ConnectSocketStep α → Option (InlineWebSocket α)
  | .handler =>
      match handler.onTop s with
      | some a => s.step a
      | none => none
  | .other a =>
      match handler.onTop s with
      | some _ => none
      | none => s.step a

/-- The runs of an adapter on which a handler runs. -/
def connectSocketSystem (α : Type) (handler : ConnectHandler) :
    System (InlineWebSocket α) (ConnectSocketStep α) where
  init s := s = .constructed
  step := connectSocketStep handler

/-- One close event has been raised and `handler.onClose` has been called
once, both with the code and the reason of the first closure; or nothing
has been closed. -/
def ClosedOnce {α : Type} (s : InlineWebSocket α) : Prop :=
  s.closeEvents.map (fun e => (e.code, e.reason)) = s.closures.take 1
    ∧ s.onCloses.map (fun e => (e.code, e.reason)) = s.closures.take 1

end RivetKit.Actor
