/-
The ready states of an inline WebSocket go one way, and a socket that is
closing passes nothing on that is sent later (`closes_in_order`), unless
`handler.onOpen` closes the socket and returns.

What a step may do to the messages that are under way is said once
(`Passes`): a dispatch puts its event's message into the buffer, onto the
stack or into a listener's hands, and changes nothing else. The ready state
is written in five places, and one of them, behind `handler.onOpen`, is
not guarded.

# Sections

  - messages under way
  - dispatch
  - one step
  - every run
-/
import RivetKit.Common.InlineWebSocket

namespace RivetKit.Common

open Transition

namespace InlineWebSocket

variable {α : Type} {s s' : InlineWebSocket α}

-- ==================================================== messages under way

/-- The messages of a frame. -/
def messagesIn : Frame α → List (Message α)
  | .dispatch d => messagesOf d.event
  | .flush events => events.flatMap messagesOf
  | .queued ms => ms
  | _ => []

/-- A message has left `#queuedMessages`: it has been delivered, or is
buffered, or on the stack. -/
def Passed (s : InlineWebSocket α) (m : Message α) : Prop :=
  m ∈ s.received ∨ (∃ b ∈ s.bufferedEvents, m ∈ messagesOf b.event)
    ∨ ∃ f ∈ s.stack, m ∈ messagesIn f

/-- From `s` to `s'` nothing has changed but what has passed, and that by
`ms` at most. -/
structure Passes (ms : List (Message α)) (s s' : InlineWebSocket α) :
    Prop where
  readyState : s'.readyState = s.readyState
  opens : s'.opens = s.opens
  onMessages : s'.onMessages = s.onMessages
  sent : s'.sent = s.sent
  queued : s'.queuedMessages = s.queuedMessages
  passed : ∀ m, s'.Passed m → s.Passed m ∨ m ∈ ms

/-- A frame on top. -/
theorem passed_push {f : Frame α} {m : Message α}
    (h : Passed { s with stack := f :: s.stack } m) :
    s.Passed m ∨ m ∈ messagesIn f := by
  rcases h with hreceived | hbuffered | ⟨g, hg, hm⟩
  · exact Or.inl (Or.inl hreceived)
  · exact Or.inl (Or.inr (Or.inl hbuffered))
  · rcases List.mem_cons.1 hg with rfl | hg
    · exact Or.inr hm
    · exact Or.inl (Or.inr (Or.inr ⟨g, hg, hm⟩))

/-- A frame less. -/
theorem passed_pop {f : Frame α} {rest : List (Frame α)} {m : Message α}
    (hstack : s.stack = f :: rest)
    (h : Passed { s with stack := rest } m) : s.Passed m := by
  rcases h with hreceived | hbuffered | ⟨g, hg, hm⟩
  · exact Or.inl hreceived
  · exact Or.inr (Or.inl hbuffered)
  · refine Or.inr (Or.inr ⟨g, ?_, hm⟩)
    rw [hstack]
    exact List.mem_cons_of_mem f hg

/-- Another frame in place of the one on top. -/
theorem passed_replace {f g : Frame α} {rest : List (Frame α)}
    {m : Message α} (hstack : s.stack = f :: rest)
    (h : Passed { s with stack := g :: rest } m) :
    s.Passed m ∨ m ∈ messagesIn g := by
  rcases passed_push (s := { s with stack := rest }) h with hpop | htop
  · exact Or.inl (passed_pop hstack hpop)
  · exact Or.inr htop

-- ============================================================== dispatch

/-- A listener gets an event. -/
theorem receive_passes (event : Event α) (first : Bool)
    (s : InlineWebSocket α) :
    Passes (messagesOf event) s (s.receive event first) := by
  cases event with
  | message m =>
      refine ⟨rfl, rfl, rfl, rfl, rfl, ?_⟩
      rintro x (hreceived | hbuffered | hstack)
      · rcases List.mem_append.1 hreceived with hold | hnew
        · exact Or.inl (Or.inl hold)
        · exact Or.inr hnew
      · exact Or.inl (Or.inr (Or.inl hbuffered))
      · exact Or.inl (Or.inr (Or.inr hstack))
  | opened => exact ⟨rfl, rfl, rfl, rfl, rfl, fun _ => Or.inl⟩
  | close e => exact ⟨rfl, rfl, rfl, rfl, rfl, fun _ => Or.inl⟩
  | error cause => exact ⟨rfl, rfl, rfl, rfl, rfl, fun _ => Or.inl⟩
  | custom type => exact ⟨rfl, rfl, rfl, rfl, rfl, fun _ => Or.inl⟩

/-- The end of a dispatch. -/
theorem callProperty_passes (event : Event α) (first : Bool)
    (s : InlineWebSocket α) :
    Passes (messagesOf event) s (s.callProperty event first) := by
  unfold callProperty
  split
  · exact ⟨rfl, rfl, rfl, rfl, rfl, fun _ => Or.inl⟩
  · have h := receive_passes event first
      { s with stack := Frame.listener :: s.stack }
    refine ⟨h.readyState, h.opens, h.onMessages, h.sent, h.queued, ?_⟩
    intro m hm
    rcases h.passed m hm with hpush | hevent
    · rcases passed_push hpush with hold | hframe
      · exact Or.inl hold
      · cases hframe
    · exact Or.inr hevent

/-- A dispatch. -/
theorem dispatchEvent_passes (event : Event α) (s : InlineWebSocket α) :
    Passes (messagesOf event) s (s.dispatchEvent event) := by
  unfold dispatchEvent
  split
  · next hnone =>
    have h := callProperty_passes event true
      { s with
        bufferedEvents := s.bufferedEvents
          ++ [BufferedEvent.mk event (s.properties event.type).isSome] }
    refine ⟨h.readyState, h.opens, h.onMessages, h.sent, h.queued, ?_⟩
    intro m hm
    rcases h.passed m hm with hbuffer | hevent
    · rcases hbuffer with hreceived | ⟨b, hb, hmb⟩ | hstack
      · exact Or.inl (Or.inl hreceived)
      · rcases List.mem_append.1 hb with hb | hb
        · exact Or.inl (Or.inr (Or.inl ⟨b, hb, hmb⟩))
        · rw [List.mem_singleton.1 hb] at hmb
          exact Or.inr hmb
      · exact Or.inl (Or.inr (Or.inr hstack))
    · exact Or.inr hevent
  · exact ⟨rfl, rfl, rfl, rfl, rfl, fun m hm => passed_push hm⟩

/-- The loop of a dispatch. -/
theorem dispatchLoop_passes {d : Dispatch α} {rest : List (Frame α)}
    (hstack : s.stack = .dispatch d :: rest) :
    Passes [] s (s.dispatchLoop d rest) := by
  have hevent : ∀ m ∈ messagesOf d.event, s.Passed m := by
    intro m hm
    refine Or.inr (Or.inr ⟨.dispatch d, ?_, hm⟩)
    rw [hstack]
    exact List.mem_cons_self
  unfold dispatchLoop
  split
  · next l _ =>
    have h := receive_passes d.event
      (decide (d.index = 0) && !d.toProperty)
      { s with
        stack := .listener :: .dispatch { d with
          index := d.index + 1
          called := d.called ++ [l] } :: rest }
    refine ⟨h.readyState, h.opens, h.onMessages, h.sent, h.queued, ?_⟩
    intro m hm
    left
    rcases h.passed m hm with hpush | hm
    · rcases passed_push (s := { s with stack := _ :: rest }) hpush
        with hreplace | hframe
      · rcases passed_replace hstack hreplace with hold | hframe
        · exact hold
        · exact hevent m hframe
      · cases hframe
    · exact hevent m hm
  · have h := callProperty_passes d.event d.toProperty
      { s with stack := rest, dispatched := s.dispatched ++ [d] }
    refine ⟨h.readyState, h.opens, h.onMessages, h.sent, h.queued, ?_⟩
    intro m hm
    left
    rcases h.passed m hm with hpop | hm
    · exact passed_pop hstack hpop
    · exact hevent m hm

-- ============================================================== one step

/-- Every message that is anywhere has its number. -/
def Numbered (s : InlineWebSocket α) : Prop :=
  ∀ m, s.Passed m ∨ m ∈ s.queuedMessages → m.seq < s.sent.length

/-- What one step does. -/
structure Stepped (s s' : InlineWebSocket α) : Prop where
  readyState : s.readyState.number ≤ s'.readyState.number
  opens : 2 ≤ s.readyState.number → s'.opens = s.opens
  onMessages : 2 ≤ s.readyState.number → s'.onMessages = s.onMessages
  passed : 2 ≤ s.readyState.number → ∀ m, s'.Passed m → s.Passed m
  numbered : s.Numbered → s'.Numbered

/-- Nothing new has passed. -/
theorem Passes.stepped (h : Passes [] s s') : Stepped s s' where
  readyState := Nat.le_of_eq (congrArg _ h.readyState.symm)
  opens _ := h.opens
  onMessages _ := h.onMessages
  passed _ m hm := by
    rcases h.passed m hm with hold | hnew
    · exact hold
    · cases hnew
  numbered hall m hm := by
    rw [h.sent]
    rcases hm with hpassed | hqueued
    · rcases h.passed m hpassed with hold | hnew
      · exact hall m (Or.inl hold)
      · cases hnew
    · rw [h.queued] at hqueued
      exact hall m (Or.inr hqueued)

/-- One change after another. -/
theorem Stepped.trans {t : InlineWebSocket α} (h : Stepped s t)
    (h' : Stepped t s') : Stepped s s' where
  readyState := Nat.le_trans h.readyState h'.readyState
  opens hlate :=
    (h'.opens (Nat.le_trans hlate h.readyState)).trans (h.opens hlate)
  onMessages hlate :=
    (h'.onMessages (Nat.le_trans hlate h.readyState)).trans
      (h.onMessages hlate)
  passed hlate m hm :=
    h.passed hlate m (h'.passed (Nat.le_trans hlate h.readyState) m hm)
  numbered hall := h'.numbered (h.numbered hall)

/-- A step that touches no message. -/
theorem stepped_of_passed (hle : s.readyState.number ≤ s'.readyState.number)
    (hopens : 2 ≤ s.readyState.number → s'.opens = s.opens)
    (honMessages : 2 ≤ s.readyState.number →
      s'.onMessages = s.onMessages)
    (hsent : s'.sent = s.sent)
    (hqueued : s'.queuedMessages = s.queuedMessages)
    (hpassed : ∀ m, s'.Passed m → s.Passed m) : Stepped s s' where
  readyState := hle
  opens := hopens
  onMessages := honMessages
  passed _ := hpassed
  numbered hall m hm := by
    rw [hsent]
    rw [hqueued] at hm
    apply hall
    rcases hm with hm | hm
    · exact Or.inl (hpassed m hm)
    · exact Or.inr hm

/-- A socket that has closed. -/
theorem number_le_closed (state : ReadyState) :
    state.number ≤ ReadyState.closed.number := by
  cases state <;> decide

/-- A close event is raised. -/
theorem raiseClose_stepped (code : Nat) (reason : String)
    (s : InlineWebSocket α) :
    Stepped s ({ s with readyState := .closed }.raiseClose code reason) := by
  apply Stepped.trans
    (t := { s with
      readyState := .closed
      closeEvents := s.closeEvents
        ++ [⟨code, reason, decide (code = 1000)⟩] })
  · exact stepped_of_passed (number_le_closed _) (fun _ => rfl)
      (fun _ => rfl) rfl rfl (fun _ hm => hm)
  · exact (dispatchEvent_passes (.close _) _).stepped

/-- `close`. -/
theorem close_stepped (code : Nat) (reason : String)
    (s : InlineWebSocket α) : Stepped s (s.close code reason) := by
  unfold close
  split
  · exact stepped_of_passed (Nat.le_refl _) (fun _ => rfl) (fun _ => rfl)
      rfl rfl (fun _ hm => hm)
  · next hopen =>
    apply stepped_of_passed
    · show s.readyState.number ≤ 2
      cases hstate : s.readyState with
      | connecting => exact Nat.zero_le 2
      | opened => exact Nat.le_succ 1
      | closing => exact absurd (Or.inr hstate) hopen
      | closed => exact absurd (Or.inl hstate) hopen
    · exact fun _ => rfl
    · exact fun _ => rfl
    · rfl
    · rfl
    · intro m hm
      rcases passed_push (s := { s with
          readyState := .closing, onCloses := _ }) hm with hold | hframe
      · exact hold
      · cases hframe

/-- A dispatch of an event that was under way. -/
theorem Passes.dispatchEvent {t : InlineWebSocket α} (h : Passes [] s t)
    {event : Event α} (hevent : ∀ m ∈ messagesOf event, s.Passed m) :
    Stepped s (t.dispatchEvent event) := by
  have h' := dispatchEvent_passes event t
  apply stepped_of_passed
  · exact Nat.le_of_eq (congrArg _ (h'.readyState.trans h.readyState).symm)
  · exact fun _ => h'.opens.trans h.opens
  · exact fun _ => h'.onMessages.trans h.onMessages
  · exact h'.sent.trans h.sent
  · exact h'.queued.trans h.queued
  · intro m hm
    rcases h'.passed m hm with hold | hnew
    · rcases h.passed m hold with hold | hnone
      · exact hold
      · cases hnone
    · exact hevent m hnew

/-- `#handleMessage`, of a message that was under way. -/
theorem Passes.handleMessage {t : InlineWebSocket α} (h : Passes [] s t)
    {m : Message α} (hm : s.Passed m) :
    Stepped s (t.handleMessage m) := by
  unfold InlineWebSocket.handleMessage
  split
  · have hstep := h.stepped
    refine ⟨hstep.readyState, hstep.opens, hstep.onMessages, hstep.passed,
      ?_⟩
    rintro hall x (hpassed | hqueued)
    · exact hstep.numbered hall x (Or.inl hpassed)
    · rcases List.mem_append.1 hqueued with hold | hnew
      · exact hstep.numbered hall x (Or.inr hold)
      · rw [List.mem_singleton.1 hnew]
        show m.seq < t.sent.length
        rw [h.sent]
        exact hall m (Or.inl hm)
  · apply h.dispatchEvent
    intro x hx
    rw [List.mem_singleton.1 hx]
    exact hm

/-- `wsContext.send`. -/
theorem wsSend_stepped (data : α) (s : InlineWebSocket α) :
    Stepped s (s.wsSend data) := by
  unfold wsSend
  dsimp only
  unfold handleMessage
  split
  · refine ⟨Nat.le_refl _, fun _ => rfl, fun _ => rfl, fun _ _ h => h, ?_⟩
    intro hall x hx
    show x.seq < (s.sent ++ [_]).length
    rw [List.length_append]
    rcases hx with hpassed | hqueued
    · exact Nat.lt_add_right 1 (hall x (Or.inl hpassed))
    · rcases List.mem_append.1 hqueued with hold | hnew
      · exact Nat.lt_add_right 1 (hall x (Or.inr hold))
      · rw [List.mem_singleton.1 hnew]
        exact Nat.lt_succ_self _
  · next hopen =>
    have hstate : s.readyState = .opened := Classical.not_not.1 hopen
    have hearly : ¬ 2 ≤ s.readyState.number := by
      rw [hstate]
      show ¬ 2 ≤ 1
      omega
    have h := dispatchEvent_passes
      (.message ⟨s.sent.length, s.readyState, data⟩)
      { s with sent := s.sent ++ [⟨s.sent.length, s.readyState, data⟩] }
    refine ⟨?_, ?_, ?_, ?_, ?_⟩
    · exact Nat.le_of_eq (congrArg _ h.readyState.symm)
    · exact fun hlate => absurd hlate hearly
    · exact fun hlate => absurd hlate hearly
    · exact fun hlate => absurd hlate hearly
    · intro hall x hx
      rw [h.sent]
      show x.seq < (s.sent ++ [_]).length
      rw [List.length_append]
      rcases hx with hpassed | hqueued
      · rcases h.passed x hpassed with hold | hnew
        · exact Nat.lt_add_right 1 (hall x (Or.inl hold))
        · rw [List.mem_singleton.1 hnew]
          exact Nat.lt_succ_self _
      · rw [h.queued] at hqueued
        exact Nat.lt_add_right 1 (hall x (Or.inr hqueued))

/-- `addEventListener`. -/
theorem addEventListener_passes (type : EventType) (listener : Nat)
    (s : InlineWebSocket α) :
    Passes [] s (s.addEventListener type listener) := by
  refine ⟨rfl, rfl, rfl, rfl, rfl, ?_⟩
  rintro m (hreceived | ⟨b, hb, hm⟩ | ⟨f, hf, hm⟩)
  · exact Or.inl (Or.inl hreceived)
  · exact Or.inl (Or.inr (Or.inl ⟨b, (List.mem_filter.1 hb).1, hm⟩))
  · rcases List.mem_cons.1 hf with rfl | hf
    · -- what is flushed was buffered
      obtain ⟨event, hevent, hm⟩ := List.mem_flatMap.1 hm
      obtain ⟨b, hb, rfl⟩ := List.mem_map.1 (List.mem_filter.1 hevent).1
      exact Or.inl (Or.inr (Or.inl ⟨b, hb, hm⟩))
    · exact Or.inl (Or.inr (Or.inr ⟨f, hf, hm⟩))

/-- The history of a frame is no message. -/
theorem messagesIn_removeFrame (type : EventType) (listener : Nat)
    (f : Frame α) :
    messagesIn (removeFrame type listener f) = messagesIn f := by
  cases f with
  | dispatch d =>
      show messagesOf (Dispatch.remove type listener d).event = _
      unfold Dispatch.remove
      split <;> rfl
  | _ => rfl

/-- `removeEventListener`. -/
theorem removeEventListener_passes (type : EventType) (listener : Nat)
    (s : InlineWebSocket α) :
    Passes [] s (s.removeEventListener type listener) := by
  unfold removeEventListener
  split
  · refine ⟨rfl, rfl, rfl, rfl, rfl, ?_⟩
    rintro m (hreceived | hbuffered | ⟨f, hf, hm⟩)
    · exact Or.inl (Or.inl hreceived)
    · exact Or.inl (Or.inr (Or.inl hbuffered))
    · obtain ⟨g, hg, rfl⟩ := List.mem_map.1 hf
      rw [messagesIn_removeFrame] at hm
      exact Or.inl (Or.inr (Or.inr ⟨g, hg, hm⟩))
  · exact ⟨rfl, rfl, rfl, rfl, rfl, fun _ => Or.inl⟩

/-- A setter. -/
theorem setProperty_passes (type : EventType) (handler : Option Nat)
    (s : InlineWebSocket α) :
    Passes [] s (s.setProperty type handler) := by
  cases type with
  | _ => exact ⟨rfl, rfl, rfl, rfl, rfl, fun _ => Or.inl⟩

/-- The history of the closures. -/
theorem closures_stepped (closures : List (Nat × String))
    (s : InlineWebSocket α) : Stepped s { s with closures } :=
  stepped_of_passed (Nat.le_refl _) (fun _ => rfl) (fun _ => rfl) rfl rfl
    (fun _ hm => hm)

/-- A call of an end. -/
theorem call_stepped (o : SocketOp α) (s : InlineWebSocket α) :
    Stepped s (s.call o) := by
  cases o with
  | send =>
      show Stepped s s.send
      unfold send
      split
      · exact (dispatchEvent_passes (.error _) s).stepped
      · next hopen =>
        have hearly : ¬ 2 ≤ s.readyState.number := by
          rw [Classical.not_not.1 hopen]
          show ¬ 2 ≤ 1
          omega
        apply stepped_of_passed
        · exact Nat.le_refl _
        · exact fun _ => rfl
        · exact fun hlate => absurd hlate hearly
        · rfl
        · rfl
        · intro m hm
          rcases passed_push (s := { s with onMessages := _ }) hm
            with hold | hframe
          · exact hold
          · cases hframe
  | close code reason =>
      show Stepped s (InlineWebSocket.close _ _ { s with closures := _ })
      exact (closures_stepped _ s).trans (close_stepped _ _ _)
  | addEventListener type listener =>
      exact (addEventListener_passes type listener s).stepped
  | removeEventListener type listener =>
      exact (removeEventListener_passes type listener s).stepped
  | setProperty type handler =>
      exact (setProperty_passes type handler s).stepped
  | dispatchEvent type =>
      exact (dispatchEvent_passes (.custom type) s).stepped
  | wsSend data => exact wsSend_stepped data s
  | wsClose code reason =>
      show Stepped s (handleClose _ _ { s with closures := _ })
      unfold handleClose
      split
      · exact closures_stepped _ s
      · exact (closures_stepped _ s).trans (raiseClose_stepped _ _ _)

/-- A frame that is done. -/
theorem pop_passes {f : Frame α} {rest : List (Frame α)}
    (hstack : s.stack = f :: rest) :
    Passes [] s { s with stack := rest } :=
  ⟨rfl, rfl, rfl, rfl, rfl, fun _ hm => Or.inl (passed_pop hstack hm)⟩

/-- What is in the frame on top is under way. -/
theorem passed_top {f : Frame α} {rest : List (Frame α)} {m : Message α}
    (hstack : s.stack = f :: rest) (hm : m ∈ messagesIn f) :
    s.Passed m := by
  refine Or.inr (Or.inr ⟨f, ?_, hm⟩)
  rw [hstack]
  exact List.mem_cons_self

/-- A frame that has got further. -/
theorem replace_passes {f g : Frame α} {rest : List (Frame α)}
    (hstack : s.stack = f :: rest)
    (hsub : ∀ m ∈ messagesIn g, m ∈ messagesIn f) :
    Passes [] s { s with stack := g :: rest } := by
  refine ⟨rfl, rfl, rfl, rfl, rfl, ?_⟩
  intro m hm
  left
  rcases passed_replace hstack hm with hold | hframe
  · exact hold
  · exact passed_top hstack (hsub m hframe)

/-- The function on top returns. -/
theorem ret_stepped (hok : s.StillOpening .ret) (h : s.ret = some s') :
    Stepped s s' := by
  unfold ret at h
  split at h
  · next rest hstack =>
    rw [← Option.some.inj h]
    have hconnecting : s.readyState = .connecting := by
      apply hok
      rw [hstack]
      rfl
    have hearly : ¬ 2 ≤ s.readyState.number := by
      rw [hconnecting]
      show ¬ 2 ≤ 0
      omega
    have hopened : Stepped s { s with
        stack := .opened :: rest
        readyState := .opened
        opens := s.opens + 1 } := by
      apply stepped_of_passed
      · rw [hconnecting]
        exact Nat.zero_le _
      · exact fun hlate => absurd hlate hearly
      · exact fun _ => rfl
      · rfl
      · rfl
      · intro m hm
        rcases passed_replace hstack (g := .opened) hm with hold | hframe
        · exact hold
        · cases hframe
    exact hopened.trans (dispatchEvent_passes .opened _).stepped
  · next code reason rest hstack =>
    rw [← Option.some.inj h]
    exact (pop_passes hstack).stepped.trans
      (raiseClose_stepped code reason _)
  · next rest hstack =>
    rw [← Option.some.inj h]
    exact (pop_passes hstack).stepped
  · next rest hstack =>
    rw [← Option.some.inj h]
    exact (pop_passes hstack).stepped
  · cases h

/-- The adapter goes on. -/
theorem internal_stepped (h : s.internal = some s') : Stepped s s' := by
  unfold internal at h
  split at h
  · next d rest hstack =>
    rw [← Option.some.inj h]
    exact (dispatchLoop_passes hstack).stepped
  · next rest hstack =>
    rw [← Option.some.inj h]
    exact (pop_passes hstack).stepped
  · next event events rest hstack =>
    rw [← Option.some.inj h]
    have hreplace : Passes [] s
        { s with stack := .flush events :: rest } :=
      replace_passes hstack fun m hm => List.mem_append_right _ hm
    apply hreplace.dispatchEvent
    intro m hm
    exact passed_top hstack (List.mem_append_left _ hm)
  · next rest hstack =>
    split at h
    · rw [← Option.some.inj h]
      exact (pop_passes hstack).stepped
    · next hqueue =>
      rw [← Option.some.inj h]
      have hstate : s.readyState = .opened :=
        Classical.byContradiction fun hclosed => hqueue (Or.inr hclosed)
      have hearly : ¬ 2 ≤ s.readyState.number := by
        rw [hstate]
        show ¬ 2 ≤ 1
        omega
      refine ⟨Nat.le_refl _, fun _ => rfl, fun _ => rfl, ?_, ?_⟩
      · exact fun hlate => absurd hlate hearly
      · rintro hall m (hpassed | hqueued)
        · rcases passed_replace (s := { s with queuedMessages := [] })
            hstack hpassed with hold | hframe
          · exact hall m (Or.inl hold)
          · exact hall m (Or.inr hframe)
        · cases hqueued
  · next rest hstack =>
    rw [← Option.some.inj h]
    exact (pop_passes hstack).stepped
  · next m ms rest hstack =>
    rw [← Option.some.inj h]
    have hreplace : Passes [] s { s with stack := .queued ms :: rest } :=
      replace_passes hstack fun x hx => List.mem_cons_of_mem m hx
    exact hreplace.handleMessage (passed_top hstack List.mem_cons_self)
  · next rest hstack =>
    rw [← Option.some.inj h]
    have hpop := (pop_passes hstack).stepped
    exact (hpop.trans (closures_stepped _ _)).trans (close_stepped _ _ _)
  · cases h

/-- The function on top throws. -/
theorem throws_stepped (h : s.throws = some s') : Stepped s s' := by
  unfold throws at h
  split at h
  · next rest hstack =>
    rw [← Option.some.inj h]
    have hreplace : Passes [] s { s with stack := .failed :: rest } :=
      replace_passes hstack fun m hm => hm
    apply hreplace.dispatchEvent
    intro m hm
    cases hm
  · next hother =>
    apply ret_stepped _ h
    intro htop
    unfold onOpenOnTop at htop
    split at htop
    · next rest hstack => exact absurd hstack (hother rest)
    · cases htop

/-- One step. -/
theorem step_stepped {a : SocketStep α} (hok : s.StillOpening a)
    (h : s.step a = some s') : Stepped s s' := by
  cases a with
  | op o =>
      simp only [step] at h
      split at h
      · rw [← Option.some.inj h]
        exact call_stepped o s
      · cases h
  | ret => exact ret_stepped hok h
  | throws => exact throws_stepped h
  | internal => exact internal_stepped h

-- ============================================================= every run

/-- A run from a state on. -/
theorem run_stepped (as : List (SocketStep α)) :
    ∀ {s s' : InlineWebSocket α},
      (inlineSystem α).RunOk (fun s a => s.StillOpening a) s as →
      (inlineSystem α).run s as = some s' → Stepped s s' := by
  induction as with
  | nil =>
      intro s s' _ hrun
      rw [← Option.some.inj hrun]
      exact stepped_of_passed (Nat.le_refl _) (fun _ => rfl)
        (fun _ => rfl) rfl rfl (fun _ hm => hm)
  | cons a as ih =>
      intro s s' hok hrun
      obtain ⟨s₁, hstep, hrun⟩ := System.run_cons hrun
      simp only [System.RunOk] at hok
      have hrest := hok.2
      rw [hstep] at hrest
      exact (step_stepped hok.1 hstep).trans (ih hrest hrun)

/-- Where every run begins. -/
theorem constructed_reaches
    {ok : InlineWebSocket α → SocketStep α → Prop} :
    (inlineSystem α).Reaches ok constructed :=
  .init rfl

/-- Every message of a reached state has its number. -/
theorem numbered_reaches
    (hs : (inlineSystem α).Reaches (fun s a => s.StillOpening a) s) :
    s.Numbered := by
  apply System.Reaches.invariant _ _ hs
  · rintro s₀ rfl m ((hreceived | ⟨b, hb, -⟩ | ⟨f, hf, hm⟩) | hqueued)
    · cases hreceived
    · cases hb
    · rw [List.mem_singleton.1 hf] at hm
      cases hm
    · cases hqueued
  · intro s₁ a s₂ _ hnumbered hok hstep
    exact (step_stepped hok hstep).numbered hnumbered

end InlineWebSocket

open InlineWebSocket

/-- An adapter whose handler does not close the socket in `onOpen` and
return goes through its ready states in their order: from any state that a
run reaches, in whatever order the ends go on, the ready state does not go
back; and once the socket is closing no open event is raised, no message of
the client gets to the handler, and no message that the server sends from
then on to a listener or property handler. -/
theorem closes_in_order {α : Type} {s s' : InlineWebSocket α}
    {as : List (SocketStep α)}
    (hs : (inlineSystem α).Reaches (fun s a => s.StillOpening a) s)
    (hok : (inlineSystem α).RunOk (fun s a => s.StillOpening a) s as)
    (hrun : (inlineSystem α).run s as = some s') : s.InOrder s' := by
  have hstepped := run_stepped as hok hrun
  refine ⟨hstepped.readyState, hstepped.opens, hstepped.onMessages, ?_⟩
  intro hlate m hm
  apply numbered_reaches hs m
  exact Or.inl (hstepped.passed hlate m (Or.inl hm))

/-- A client listens, a message goes each way, and the client closes from
its listener while the second message of the server is handed out. -/
def closeFromListener : List (SocketStep String) :=
  [.ret, .internal, .op (.addEventListener .message 1), .internal,
    .op .send, .op (.wsSend "a"), .internal, .ret, .internal, .ret,
    .op (.wsSend "b"), .internal, .op (.close none none)]

/-- What goes on while and after `handler.onClose` runs. -/
def afterClose : List (SocketStep String) :=
  [.op (.wsSend "c"), .ret, .op (.wsSend "d"), .op .send, .ret,
    .internal, .op (.addEventListener .opened 2), .internal, .internal]

/-- The messages that are sent then are not delivered. -/
theorem closes_in_order_from_listener :
    ∃ s s', (inlineSystem String).run .constructed closeFromListener
        = some s
      ∧ (inlineSystem String).run s afterClose = some s'
      ∧ s.readyState = .closing ∧ s'.sent.length = 4
      ∧ s.InOrder s' := by
  refine ⟨_, _, rfl, rfl, rfl, rfl,
    @closes_in_order String _ _ afterClose
      (System.Reaches.run closeFromListener constructed_reaches ?_ rfl)
      ?_ rfl⟩
  · decide
  · decide

/-- A handler that closes the socket in `onOpen`, as that of an actor that
could not be loaded does: the closed socket opens. -/
theorem opens_after_close :
    ¬ ∀ (s s' : InlineWebSocket String) (as : List (SocketStep String)),
        (inlineSystem String).Reachable s →
        (inlineSystem String).run s as = some s' → s.InOrder s' := by
  intro hall
  have h := hall _ _ [.ret]
    (System.Reachable.run
      [.op (.wsClose (some 1011) (some "internal_error"))]
      constructed_reaches rfl) rfl
  exact absurd h.readyState (by decide)

end RivetKit.Common
