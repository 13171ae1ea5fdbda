/-
Once an inline WebSocket with a connection handler has been closed, from
whichever end, it is never so that one close event has been raised and
`handler.onClose` been called once (`closedOnce_iff`).

A closure by the client calls `handler.onClose`, whose force-close raises a
close event of its own before `close` raises its; one by the server calls
nothing. The handler for an actor that could not be loaded closes the
socket before it opens, and the closed socket opens.

What a closure adds is on the stack while it is under way, so the frames of
`handler.onOpen` and `handler.onClose` are what the counts go with
(`handlerFrames`); everything else leaves them and the counts alone
(`Calm`).

# Sections

  - what leaves the closures alone
  - one effect
  - the counts
  - one step
  - every run
-/
import RivetKit.Actor.InlineHandlers

namespace RivetKit.Actor

open Transition
open RivetKit.Common
open RivetKit.Common.InlineWebSocket

variable {α : Type} {handler : ConnectHandler} {s s' : InlineWebSocket α}

-- ========================================= what leaves the closures alone

/-- The frames of `handler.onOpen` and `handler.onClose`. -/
def isHandlerFrame : Frame α → Bool
  | .onOpen => true
  | .onClose _ _ => true
  | _ => false

/-- Those on a stack. -/
def handlerFrames (stack : List (Frame α)) : List (Frame α) :=
  stack.filter isHandlerFrame

/-- From `s` to `s'` nothing has closed. -/
structure Calm (s s' : InlineWebSocket α) : Prop where
  readyState : s'.readyState = s.readyState
  closeEvents : s'.closeEvents = s.closeEvents
  onCloses : s'.onCloses = s.onCloses
  closures : s'.closures = s.closures
  frames : handlerFrames s'.stack = handlerFrames s.stack

/-- One after the other. -/
theorem Calm.trans {t : InlineWebSocket α} (h : Calm s t)
    (h' : Calm t s') : Calm s s' :=
  ⟨h'.readyState.trans h.readyState, h'.closeEvents.trans h.closeEvents,
    h'.onCloses.trans h.onCloses, h'.closures.trans h.closures,
    h'.frames.trans h.frames⟩

/-- A listener gets an event. -/
theorem receive_calm (event : Event α) (first : Bool)
    (s : InlineWebSocket α) : Calm s (s.receive event first) := by
  cases event with
  | _ => exact ⟨rfl, rfl, rfl, rfl, rfl⟩

/-- The end of a dispatch. -/
theorem callProperty_calm (event : Event α) (first : Bool)
    (s : InlineWebSocket α) : Calm s (s.callProperty event first) := by
  unfold callProperty
  split
  · exact ⟨rfl, rfl, rfl, rfl, rfl⟩
  · have h := receive_calm event first
      { s with stack := Frame.listener :: s.stack }
    exact ⟨h.readyState, h.closeEvents, h.onCloses, h.closures, h.frames⟩

/-- A dispatch. -/
theorem dispatchEvent_calm (event : Event α) (s : InlineWebSocket α) :
    Calm s (s.dispatchEvent event) := by
  unfold InlineWebSocket.dispatchEvent
  split
  · have h := callProperty_calm event true
      { s with
        bufferedEvents := s.bufferedEvents
          ++ [BufferedEvent.mk event (s.properties event.type).isSome] }
    exact ⟨h.readyState, h.closeEvents, h.onCloses, h.closures, h.frames⟩
  · exact ⟨rfl, rfl, rfl, rfl, rfl⟩

/-- The loop of a dispatch. -/
theorem dispatchLoop_calm {d : Dispatch α} {rest : List (Frame α)}
    (hstack : s.stack = .dispatch d :: rest) :
    Calm s (s.dispatchLoop d rest) := by
  have hframes : handlerFrames s.stack = handlerFrames rest := by
    rw [hstack]
    rfl
  unfold dispatchLoop
  split
  · next l _ =>
    have h := receive_calm d.event
      (decide (d.index = 0) && !d.toProperty)
      { s with
        stack := .listener :: .dispatch { d with
          index := d.index + 1
          called := d.called ++ [l] } :: rest }
    exact ⟨h.readyState, h.closeEvents, h.onCloses, h.closures,
      h.frames.trans hframes.symm⟩
  · have h := callProperty_calm d.event d.toProperty
      { s with stack := rest, dispatched := s.dispatched ++ [d] }
    exact ⟨h.readyState, h.closeEvents, h.onCloses, h.closures,
      h.frames.trans hframes.symm⟩

/-- A message of the server, or one that was queued. -/
theorem handleMessage_calm (m : Message α) (s : InlineWebSocket α) :
    Calm s (s.handleMessage m) := by
  unfold handleMessage
  split
  · exact ⟨rfl, rfl, rfl, rfl, rfl⟩
  · exact dispatchEvent_calm (.message m) s

/-- The history of a frame. -/
theorem handlerFrames_removeFrame (type : EventType) (listener : Nat)
    (stack : List (Frame α)) :
    handlerFrames (stack.map (removeFrame type listener))
      = handlerFrames stack := by
  induction stack with
  | nil => rfl
  | cons f rest ih =>
      unfold handlerFrames at ih ⊢
      rw [List.map_cons, List.filter_cons, List.filter_cons, ih]
      cases f with
      | _ => rfl

/-- `removeEventListener`. -/
theorem removeEventListener_calm (type : EventType) (listener : Nat)
    (s : InlineWebSocket α) :
    Calm s (s.removeEventListener type listener) := by
  unfold removeEventListener
  split
  · exact ⟨rfl, rfl, rfl, rfl, handlerFrames_removeFrame type listener _⟩
  · exact ⟨rfl, rfl, rfl, rfl, rfl⟩

/-- A call of `close` or `wsContext.close`. -/
def isClosure : SocketOp α → Bool
  | .close _ _ => true
  | .wsClose _ _ => true
  | _ => false

/-- Every other call. -/
theorem call_calm {o : SocketOp α} (hother : isClosure o = false) :
    Calm s (s.call o) := by
  cases o with
  | send =>
      show Calm s s.send
      unfold InlineWebSocket.send
      split
      · exact dispatchEvent_calm (.error .notOpen) s
      · exact ⟨rfl, rfl, rfl, rfl, rfl⟩
  | addEventListener type listener => exact ⟨rfl, rfl, rfl, rfl, rfl⟩
  | removeEventListener type listener =>
      exact removeEventListener_calm type listener s
  | setProperty type handler =>
      cases type with
      | _ => exact ⟨rfl, rfl, rfl, rfl, rfl⟩
  | dispatchEvent type => exact dispatchEvent_calm (.custom type) s
  | wsSend data =>
      have h := handleMessage_calm ⟨s.sent.length, s.readyState, data⟩
        { s with sent := s.sent ++ [⟨s.sent.length, s.readyState, data⟩] }
      exact ⟨h.readyState, h.closeEvents, h.onCloses, h.closures, h.frames⟩
  | close code reason => cases hother
  | wsClose code reason => cases hother

-- ============================================================ one effect

/-- What a step may do to the closures, with `handler.onOpen` not on
top. -/
inductive Effect (s s' : InlineWebSocket α) : Prop
  /-- Nothing. -/
  | calm (h : Calm s s')
  /-- A closure that is not the first. -/
  | repeated (hclosed : s.readyState = .closing ∨ s.readyState = .closed)
      (hcalm : Calm { s with closures := s'.closures } s')
      (hclosures : s'.closures ≠ [])
  /-- `close` calls `handler.onClose`. -/
  | closes (code : Nat) (reason : String) (rest : List (Frame α))
      (hopen : s.readyState = .connecting ∨ s.readyState = .opened)
      (hstate : s'.readyState = .closing)
      (hstack : s'.stack = .onClose code reason :: rest)
      (hframes : handlerFrames rest = handlerFrames s.stack)
      (hevents : s'.closeEvents = s.closeEvents)
      (honCloses : s'.onCloses.length = s.onCloses.length + 1)
      (hclosures : s'.closures ≠ [])
  /-- `#handleClose` raises a close event. -/
  | handleClose (hopen : s.readyState ≠ .closed)
      (hstate : s'.readyState = .closed)
      (hframes : handlerFrames s'.stack = handlerFrames s.stack)
      (hevents : s'.closeEvents.length = s.closeEvents.length + 1)
      (honCloses : s'.onCloses = s.onCloses)
      (hclosures : s'.closures ≠ [])
  /-- `handler.onClose` is over, and `close` raises a close event. -/
  | closeFinally (code : Nat) (reason : String) (rest : List (Frame α))
      (hstack : s.stack = .onClose code reason :: rest)
      (hstate : s'.readyState = .closed)
      (hframes : handlerFrames s'.stack = handlerFrames rest)
      (hevents : s'.closeEvents.length = s.closeEvents.length + 1)
      (honCloses : s'.onCloses = s.onCloses)
      (hclosures : s'.closures = s.closures)

/-- A call of `close`. -/
theorem close_effect (code : Nat) (reason : String)
    {t : InlineWebSocket α} (hcalm : Calm s t) :
    Effect s (InlineWebSocket.close code reason
      { t with closures := t.closures ++ [(code, reason)] }) := by
  unfold InlineWebSocket.close
  split
  · next hclosed =>
    apply Effect.repeated
    · rw [← hcalm.readyState]
      exact hclosed.symm
    · exact ⟨hcalm.readyState, hcalm.closeEvents, hcalm.onCloses, rfl,
        hcalm.frames⟩
    · simp
  · next hopen =>
    apply Effect.closes code reason t.stack
    · rw [← hcalm.readyState]
      cases hstate : t.readyState with
      | connecting => exact Or.inl rfl
      | opened => exact Or.inr rfl
      | closing => exact absurd (Or.inr hstate) hopen
      | closed => exact absurd (Or.inl hstate) hopen
    · rfl
    · rfl
    · exact hcalm.frames
    · exact hcalm.closeEvents
    · show (t.onCloses ++ [_]).length = s.onCloses.length + 1
      rw [hcalm.onCloses, List.length_append]
      rfl
    · simp

/-- A close event is raised. -/
theorem raiseClose_calm (code : Nat) (reason : String)
    (s : InlineWebSocket α) :
    Calm { s with closeEvents := s.closeEvents
        ++ [⟨code, reason, decide (code = 1000)⟩] }
      (s.raiseClose code reason) :=
  dispatchEvent_calm (.close _) _

/-- A call of `wsContext.close`. -/
theorem handleClose_effect (code : Nat) (reason : String) :
    Effect s (InlineWebSocket.handleClose code reason
      { s with closures := s.closures ++ [(code, reason)] }) := by
  unfold InlineWebSocket.handleClose
  split
  · next hclosed =>
    apply Effect.repeated
    · exact Or.inr hclosed
    · exact ⟨rfl, rfl, rfl, rfl, rfl⟩
    · simp
  · next hopen =>
    have h := raiseClose_calm code reason
      { s with
        readyState := .closed
        closures := s.closures ++ [(code, reason)] }
    apply Effect.handleClose
    · exact hopen
    · exact h.readyState
    · exact h.frames
    · rw [h.closeEvents]
      exact List.length_append
    · exact h.onCloses
    · rw [h.closures]
      simp

/-- A function returns that is not `handler.onOpen`. -/
theorem ret_effect (hopen : onOpenOnTop s.stack = false)
    (h : s.ret = some s') : Effect s s' := by
  unfold ret at h
  split at h
  · next rest hstack =>
    rw [hstack] at hopen
    cases hopen
  · next code reason rest hstack =>
    rw [← Option.some.inj h]
    have h := raiseClose_calm code reason
      { s with stack := rest, readyState := .closed }
    apply Effect.closeFinally code reason rest hstack
    · exact h.readyState
    · exact h.frames
    · show (InlineWebSocket.raiseClose _ _ _).closeEvents.length = _
      rw [h.closeEvents]
      exact List.length_append
    · exact h.onCloses
    · exact h.closures
  · next rest hstack =>
    rw [← Option.some.inj h]
    refine Effect.calm ⟨rfl, rfl, rfl, rfl, ?_⟩
    rw [hstack]
    rfl
  · next rest hstack =>
    rw [← Option.some.inj h]
    refine Effect.calm ⟨rfl, rfl, rfl, rfl, ?_⟩
    rw [hstack]
    rfl
  · cases h

/-- The adapter goes on. -/
theorem internal_effect (h : s.internal = some s') : Effect s s' := by
  unfold internal at h
  split at h
  · next d rest hstack =>
    rw [← Option.some.inj h]
    exact Effect.calm (dispatchLoop_calm hstack)
  · next rest hstack =>
    rw [← Option.some.inj h]
    refine Effect.calm ⟨rfl, rfl, rfl, rfl, ?_⟩
    rw [hstack]
    rfl
  · next event events rest hstack =>
    rw [← Option.some.inj h]
    have hcalm : Calm s { s with stack := .flush events :: rest } := by
      refine ⟨rfl, rfl, rfl, rfl, ?_⟩
      rw [hstack]
      rfl
    exact Effect.calm (hcalm.trans (dispatchEvent_calm event _))
  · next rest hstack =>
    split at h
    · rw [← Option.some.inj h]
      refine Effect.calm ⟨rfl, rfl, rfl, rfl, ?_⟩
      rw [hstack]
      rfl
    · rw [← Option.some.inj h]
      refine Effect.calm ⟨rfl, rfl, rfl, rfl, ?_⟩
      rw [hstack]
      rfl
  · next rest hstack =>
    rw [← Option.some.inj h]
    refine Effect.calm ⟨rfl, rfl, rfl, rfl, ?_⟩
    rw [hstack]
    rfl
  · next m ms rest hstack =>
    rw [← Option.some.inj h]
    have hcalm : Calm s { s with stack := .queued ms :: rest } := by
      refine ⟨rfl, rfl, rfl, rfl, ?_⟩
      rw [hstack]
      rfl
    exact Effect.calm (hcalm.trans (handleMessage_calm m _))
  · next rest hstack =>
    rw [← Option.some.inj h]
    have hcalm : Calm s { s with stack := rest } := by
      refine ⟨rfl, rfl, rfl, rfl, ?_⟩
      rw [hstack]
      rfl
    exact close_effect _ _ hcalm
  · cases h

/-- One step of the adapter, with `handler.onOpen` not on top. -/
theorem step_effect {a : SocketStep α}
    (hopen : onOpenOnTop s.stack = false) (h : s.step a = some s') :
    Effect s s' := by
  cases a with
  | op o =>
      simp only [InlineWebSocket.step] at h
      split at h
      · rw [← Option.some.inj h]
        cases o with
        | close code reason =>
            exact close_effect _ _ ⟨rfl, rfl, rfl, rfl, rfl⟩
        | wsClose code reason => exact handleClose_effect _ _
        | _ => exact Effect.calm (call_calm rfl)
      · cases h
  | ret => exact ret_effect hopen h
  | throws =>
      simp only [InlineWebSocket.step, throws] at h
      split at h
      · next rest hstack =>
        rw [hstack] at hopen
        cases hopen
      · exact ret_effect hopen h
  | internal => exact internal_effect h

-- ============================================================ the counts

/-- The close events of a handler from before the socket opened. -/
def ConnectHandler.early : ConnectHandler → Nat
  | .loaded => 0
  | .failedLoad _ => 1

/-- The close events and the calls of `handler.onClose` behind
`handler.onOpen`, with what is under way. Once closed, with no closure
under way, they are not one and one. -/
def Counts (handler : ConnectHandler) (s : InlineWebSocket α) : Prop :=
  match s.readyState with
  | .connecting => False
  | .opened =>
      handlerFrames s.stack = [] ∧ s.closeEvents.length = handler.early
        ∧ s.onCloses = [] ∧ s.closures.length = handler.early
  | .closing =>
      (∃ code reason rest, s.stack = .onClose code reason :: rest
          ∧ handlerFrames rest = [])
        ∧ s.closeEvents.length = handler.early ∧ s.onCloses.length = 1
        ∧ s.closures ≠ []
  | .closed =>
      s.closures ≠ []
        ∧ ((handlerFrames s.stack = []
              ∧ ¬ (s.closeEvents.length = 1 ∧ s.onCloses.length = 1))
            ∨ ((∃ code reason,
                  handlerFrames s.stack = [.onClose code reason])
              ∧ s.closeEvents.length = 1 ∧ s.onCloses.length = 1))

/-- While it is open. -/
theorem Counts.opened (h : Counts handler s)
    (hstate : s.readyState = .opened) :
    handlerFrames s.stack = [] ∧ s.closeEvents.length = handler.early
      ∧ s.onCloses = [] ∧ s.closures.length = handler.early := by
  unfold Counts at h
  rw [hstate] at h
  exact h

/-- While it is closing. -/
theorem Counts.closing (h : Counts handler s)
    (hstate : s.readyState = .closing) :
    (∃ code reason rest, s.stack = .onClose code reason :: rest
        ∧ handlerFrames rest = [])
      ∧ s.closeEvents.length = handler.early ∧ s.onCloses.length = 1
      ∧ s.closures ≠ [] := by
  unfold Counts at h
  rw [hstate] at h
  exact h

/-- Once it is closed. -/
theorem Counts.closed (h : Counts handler s)
    (hstate : s.readyState = .closed) :
    s.closures ≠ []
      ∧ ((handlerFrames s.stack = []
            ∧ ¬ (s.closeEvents.length = 1 ∧ s.onCloses.length = 1))
          ∨ ((∃ code reason,
                handlerFrames s.stack = [.onClose code reason])
            ∧ s.closeEvents.length = 1 ∧ s.onCloses.length = 1)) := by
  unfold Counts at h
  rw [hstate] at h
  exact h

/-- It has opened. -/
theorem Counts.not_connecting (h : Counts handler s) :
    s.readyState ≠ .connecting := by
  intro hstate
  unfold Counts at h
  rw [hstate] at h
  exact h

/-- `handler.onOpen` is over. -/
theorem Counts.onOpenOnTop (h : Counts handler s) :
    onOpenOnTop s.stack = false := by
  cases htop : InlineWebSocket.onOpenOnTop s.stack with
  | false => rfl
  | true =>
      exfalso
      unfold InlineWebSocket.onOpenOnTop at htop
      split at htop
      case h_2 => cases htop
      case h_1 rest hstack =>
      cases hstate : s.readyState with
      | connecting => exact h.not_connecting hstate
      | opened =>
          have hframes := (h.opened hstate).1
          rw [hstack] at hframes
          cases hframes
      | closing =>
          obtain ⟨⟨code, reason, rest', hclosing, -⟩, -⟩ := h.closing hstate
          rw [hstack] at hclosing
          cases hclosing
      | closed =>
          rcases (h.closed hstate).2
            with ⟨hframes, -⟩ | ⟨⟨code, reason, hframes⟩, -⟩
          · rw [hstack] at hframes
            cases hframes
          · rw [hstack] at hframes
            cases hframes

-- ============================================================== one step

/-- Nothing closes, while `handler.onClose` is not on top for the first
time. -/
theorem Counts.calm (h : Counts handler s) (hcalm : Calm s s')
    (hstate : s.readyState ≠ .closing) : Counts handler s' := by
  unfold Counts at h ⊢
  rw [hcalm.readyState, hcalm.closeEvents, hcalm.onCloses, hcalm.closures,
    hcalm.frames]
  cases hs : s.readyState with
  | closing => exact absurd hs hstate
  | _ =>
      rw [hs] at h
      exact h

/-- A step of an adapter that is not closing. -/
theorem Counts.effect (h : Counts handler s) (heffect : Effect s s')
    (hstate : s.readyState ≠ .closing) : Counts handler s' := by
  cases heffect with
  | calm hcalm => exact h.calm hcalm hstate
  | repeated hclosed hcalm hclosures =>
      have hclosed : s.readyState = .closed := by
        rcases hclosed with hclosing | hclosed
        · exact absurd hclosing hstate
        · exact hclosed
      obtain ⟨-, hcounts⟩ := h.closed hclosed
      unfold Counts
      rw [hcalm.readyState, hclosed, hcalm.closeEvents, hcalm.onCloses,
        hcalm.frames]
      exact ⟨hclosures, hcounts⟩
  | closes code reason rest hopen hstate' hstack hframes hevents honCloses
      hclosures =>
      have hopened : s.readyState = .opened := by
        rcases hopen with hconnecting | hopened
        · exact absurd hconnecting h.not_connecting
        · exact hopened
      obtain ⟨hnone, hearly, hnot, -⟩ := h.opened hopened
      unfold Counts
      rw [hstate']
      refine ⟨⟨code, reason, rest, hstack, ?_⟩, ?_, ?_, hclosures⟩
      · rw [hframes]
        exact hnone
      · rw [hevents]
        exact hearly
      · rw [honCloses, hnot]
        rfl
  | handleClose hopen hstate' hframes hevents honCloses hclosures =>
      have hopened : s.readyState = .opened := by
        cases hs : s.readyState with
        | connecting => exact absurd hs h.not_connecting
        | opened => rfl
        | closing => exact absurd hs hstate
        | closed => exact absurd hs hopen
      obtain ⟨hnone, -, hnot, -⟩ := h.opened hopened
      unfold Counts
      rw [hstate']
      refine ⟨hclosures, Or.inl ⟨?_, ?_⟩⟩
      · rw [hframes]
        exact hnone
      · -- the handler is not told
        rw [honCloses, hnot]
        rintro ⟨-, hone⟩
        cases hone
  | closeFinally code reason rest hstack hstate' hframes hevents honCloses
      hclosures =>
      have hhandler : handlerFrames s.stack
          = .onClose code reason :: handlerFrames rest := by
        rw [hstack]
        rfl
      cases hs : s.readyState with
      | connecting => exact absurd hs h.not_connecting
      | closing => exact absurd hs hstate
      | opened =>
          rw [(h.opened hs).1] at hhandler
          cases hhandler
      | closed =>
          obtain ⟨hclosed, hnone | ⟨⟨code', reason', hone⟩, hevent, -⟩⟩ :=
            h.closed hs
          · rw [hnone.1] at hhandler
            cases hhandler
          · rw [hone] at hhandler
            injection hhandler with _ hrest
            unfold Counts
            rw [hstate', hframes, hclosures, ← hrest]
            refine ⟨hclosed, Or.inl ⟨rfl, ?_⟩⟩
            -- the second close event
            rw [hevents, hevent]
            rintro ⟨htwo, -⟩
            omega

/-- `handler.onClose` has just been called. -/
theorem Counts.closing_step (h : Counts handler s)
    (hstate : s.readyState = .closing) {a : SocketStep α}
    (hnext : handler.onTop s = some a) (hstep : s.step a = some s') :
    Counts handler s' := by
  obtain ⟨⟨code, reason, rest, hstack, hrest⟩, hevents, honCloses,
    hclosures⟩ := h.closing hstate
  unfold ConnectHandler.onTop at hnext
  rw [hstack, hstate] at hnext
  cases handler with
  | loaded =>
      rw [← Option.some.inj hnext] at hstep
      -- `ws.close(1000, "hack_force_close")`
      simp only [InlineWebSocket.step] at hstep
      rw [hstack] at hstep
      have heq := Option.some.inj hstep
      rw [← heq]
      show Counts _ (InlineWebSocket.handleClose 1000 "hack_force_close" _)
      unfold InlineWebSocket.handleClose
      rw [if_neg (by
        show s.readyState ≠ .closed
        rw [hstate]
        exact fun hne => by cases hne)]
      have hcounts : Counts .loaded { s with
          readyState := .closed
          closures := s.closures ++ [(1000, "hack_force_close")]
          closeEvents := s.closeEvents
            ++ [⟨1000, "hack_force_close", decide (1000 = 1000)⟩] } := by
        refine ⟨?_, Or.inr ⟨⟨code, reason, ?_⟩, ?_, honCloses⟩⟩
        · show s.closures ++ [_] ≠ []
          simp
        · show handlerFrames s.stack = _
          rw [hstack]
          show _ :: handlerFrames rest = _
          rw [hrest]
        · show (s.closeEvents ++ [_]).length = 1
          rw [List.length_append, hevents]
          rfl
      apply hcounts.calm (raiseClose_calm 1000 "hack_force_close"
        { s with
          readyState := .closed
          closures := s.closures ++ [(1000, "hack_force_close")] })
      intro hne
      cases hne
  | failedLoad loadCode =>
      rw [← Option.some.inj hnext] at hstep
      simp only [InlineWebSocket.step, ret] at hstep
      rw [hstack] at hstep
      have heq := Option.some.inj hstep
      rw [← heq]
      have hcounts : Counts (.failedLoad loadCode) { s with
          stack := rest
          readyState := .closed
          closeEvents := s.closeEvents
            ++ [⟨code, reason, decide (code = 1000)⟩] } := by
        refine ⟨hclosures, Or.inl ⟨hrest, ?_⟩⟩
        -- the first close event is from before the socket opened
        show ¬ ((s.closeEvents ++ [_]).length = 1 ∧ _)
        rw [List.length_append, hevents]
        rintro ⟨htwo, -⟩
        cases htwo
      apply hcounts.calm (raiseClose_calm code reason
        { s with stack := rest, readyState := .closed })
      intro hne
      cases hne

-- ============================================================= every run

/-- Where a run is: `handler.onOpen` is on top and has done nothing, it has
closed the socket, or it is over. -/
def Reached (handler : ConnectHandler) (s : InlineWebSocket α) : Prop :=
  s = constructed
    ∨ (∃ code, handler = .failedLoad code
        ∧ s = constructed.call (.wsClose (some 1011) (some code)))
    ∨ Counts handler s

/-- One step. -/
theorem Reached.step {a : ConnectSocketStep α} (h : Reached handler s)
    (hstep : connectSocketStep handler s a = some s') :
    Reached handler s' := by
  rcases h with rfl | ⟨code, rfl, rfl⟩ | h
  · cases a with
    | handler =>
        cases handler with
        | loaded =>
            rw [← Option.some.inj hstep]
            exact Or.inr (Or.inr ⟨rfl, rfl, rfl, rfl⟩)
        | failedLoad code =>
            rw [← Option.some.inj hstep]
            exact Or.inr (Or.inl ⟨code, rfl, rfl⟩)
    | other a =>
        cases handler with
        | loaded => cases hstep
        | failedLoad code => cases hstep
  · cases a with
    | handler =>
        rw [← Option.some.inj hstep]
        exact Or.inr (Or.inr ⟨rfl, rfl, rfl, rfl⟩)
    | other a => cases hstep
  · right
    right
    cases a with
    | handler =>
        simp only [connectSocketStep] at hstep
        split at hstep
        · next a hnext =>
          by_cases hclosing : s.readyState = .closing
          · exact h.closing_step hclosing hnext hstep
          · exact h.effect (step_effect h.onOpenOnTop hstep) hclosing
        · cases hstep
    | other a =>
        simp only [connectSocketStep] at hstep
        split at hstep
        · cases hstep
        · next hnone =>
          apply h.effect (step_effect h.onOpenOnTop hstep)
          -- a socket that is closing has `handler.onClose` on top
          intro hclosing
          obtain ⟨⟨code, reason, rest, hstack, -⟩, -⟩ := h.closing hclosing
          unfold ConnectHandler.onTop at hnone
          rw [hstack, hclosing] at hnone
          cases handler with
          | loaded => cases hnone
          | failedLoad code => cases hnone

/-- In every state that is reached. -/
theorem reached_reaches (hs : (connectSocketSystem α handler).Reachable s) :
    Reached handler s := by
  apply System.Reaches.invariant _ _ hs
  · rintro s₀ rfl
    exact Or.inl rfl
  · intro s₁ a s₂ _ hreached _ hstep
    exact hreached.step hstep

/-- With nothing on the stack, one close event and one call of
`handler.onClose` have been made, with the code and the reason of the first
closure, only as long as nothing has closed the socket. -/
theorem closedOnce_iff (hs : (connectSocketSystem α handler).Reachable s)
    (hrest : s.stack = []) : ClosedOnce s ↔ s.closures = [] := by
  constructor
  · rintro ⟨hevents, honCloses⟩
    have hlengths : s.closeEvents.length = (s.closures.take 1).length
        ∧ s.onCloses.length = (s.closures.take 1).length := by
      rw [← hevents, List.length_map]
      rw [← hevents] at honCloses
      have := congrArg List.length honCloses
      rw [List.length_map, List.length_map] at this
      exact ⟨rfl, this⟩
    rcases reached_reaches hs with rfl | ⟨code, rfl, rfl⟩ | h
    · cases hrest
    · cases hrest
    · cases hclosures : s.closures with
      | nil => rfl
      | cons first later =>
          exfalso
          rw [hclosures] at hlengths
          have hone : s.closeEvents.length = 1 ∧ s.onCloses.length = 1 :=
            hlengths
          cases hstate : s.readyState with
          | connecting => exact h.not_connecting hstate
          | opened =>
              have hnot := (h.opened hstate).2.2.1
              rw [hnot] at hone
              cases hone.2
          | closing =>
              obtain ⟨⟨code, reason, rest, hstack, -⟩, -⟩ :=
                h.closing hstate
              rw [hrest] at hstack
              cases hstack
          | closed =>
              rcases (h.closed hstate).2
                with ⟨-, hnot⟩ | ⟨⟨code, reason, hframes⟩, -⟩
              · exact hnot hone
              · rw [hrest] at hframes
                cases hframes
  · intro hclosures
    rcases reached_reaches hs with rfl | ⟨code, rfl, rfl⟩ | h
    · cases hrest
    · cases hrest
    · cases hstate : s.readyState with
      | connecting => exact absurd hstate h.not_connecting
      | opened =>
          obtain ⟨-, hevents, hnot, hearly⟩ := h.opened hstate
          rw [hclosures] at hearly
          have hnone : s.closeEvents = [] :=
            List.eq_nil_of_length_eq_zero (hevents.trans hearly.symm)
          unfold ClosedOnce
          rw [hclosures, hnone, hnot]
          exact ⟨rfl, rfl⟩
      | closing => exact absurd hclosures (h.closing hstate).2.2.2
      | closed => exact absurd hclosures (h.closed hstate).1

/-- A client that listens for close events, and closes. -/
def clientCloses : List (ConnectSocketStep String) :=
  [.handler, .other .internal, .other (.op (.addEventListener .close 1)),
    .other .internal, .other (.op (.close (some 4000) (some "bye"))),
    .handler, .other .internal, .other .ret, .other .internal, .handler,
    .other .internal, .other .ret, .other .internal]

/-- It gets two close events, the first with the code of the force-close. -/
theorem closedOnce_iff_client_closes :
    ∃ s, (connectSocketSystem String .loaded).run .constructed clientCloses
        = some s
      ∧ s.closeEvents
        = [⟨1000, "hack_force_close", true⟩, ⟨4000, "bye", false⟩]
      ∧ (ClosedOnce s ↔ s.closures = []) := by
  refine ⟨_, rfl, rfl, @closedOnce_iff String .loaded _ ?_ rfl⟩
  exact System.Reachable.run clientCloses (.init rfl) rfl

/-- A closure by the server, which the handler is not told of. -/
theorem server_close_unseen :
    ¬ ∀ (handler : ConnectHandler) (s : InlineWebSocket String),
        (connectSocketSystem String handler).Reachable s →
        s.stack = [] → s.closures ≠ [] → ClosedOnce s := by
  intro hall
  have h := hall .loaded _
    (System.Reachable.run
      [.handler, .other .internal,
        .other (.op (.wsClose (some 1011) (some "internal_error")))]
      (.init rfl) rfl) rfl (by decide)
  exact absurd h.2 (by decide)

end RivetKit.Actor
