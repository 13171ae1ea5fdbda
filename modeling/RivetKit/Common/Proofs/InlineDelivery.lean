/-
What the server sends over an inline WebSocket while it is open reaches
whoever was registered first, in order and once, and every listener in its
turn (`delivers`), in a run without the disturbances that `Undisturbed`
names.

The messages are in one line: those that have been passed to whoever was
registered first, those that wait in the buffer, and those that are on the
stack, from the top down (`Flowing.order`). A send puts its message behind
the line, which needs the stack to have none; a flush takes the whole
buffer onto the stack, and a dispatch takes one message off it, to a
handler or back into the buffer. Two things keep the buffer empty where the
line is served behind it: with a listener nothing is buffered, and with a
property handler nothing waits there.

A loop serves the listeners it found by their places, so each of those who
is not removed has either been called and is not in front of the loop any
more, or is still in front of it (`Turns`).

# Sections

  - the listeners of a loop
  - the invariant
  - one dispatch
  - the calls of the ends
  - one step
  - every run
-/
import RivetKit.Common.Proofs.InlineStates

namespace RivetKit.Common

open Transition

namespace InlineWebSocket

variable {α : Type} {s s' : InlineWebSocket α}

-- ================================================ the listeners of a loop

/-- Each listener that a loop found, and that was not removed before its
turn, has had its turn or is still to have it. -/
def Turns (listeners : List Nat) (d : Dispatch α) : Prop :=
  ∀ l ∈ d.registered, l ∉ d.removed →
    (d.called.count l = 1 ∧ l ∉ listeners.drop d.index)
      ∨ (d.called.count l = 0 ∧ l ∈ listeners.drop d.index)

/-- A loop that begins. -/
theorem turns_begin (event : Event α) (listeners : List Nat)
    (toProperty : Bool) :
    Turns listeners
      { event, registered := listeners, toProperty } := by
  intro l hl _
  right
  exact ⟨rfl, hl⟩

/-- The loop calls the next listener. -/
theorem Turns.call {listeners : List Nat} {d : Dispatch α} {l : Nat}
    (h : Turns listeners d) (hnodup : listeners.Nodup)
    (hnext : listeners[d.index]? = some l) :
    Turns listeners { d with
      index := d.index + 1
      called := d.called ++ [l] } := by
  obtain ⟨hlt, rfl⟩ := List.getElem?_eq_some_iff.1 hnext
  have hdrop : listeners.drop d.index
      = listeners[d.index] :: listeners.drop (d.index + 1) :=
    List.drop_eq_getElem_cons hlt
  have hlater : listeners[d.index] ∉ listeners.drop (d.index + 1) := by
    have hsub := (List.drop_sublist d.index listeners).nodup hnodup
    rw [hdrop] at hsub
    exact (List.nodup_cons.1 hsub).1
  intro x hx hkept
  show ((d.called ++ [listeners[d.index]]).count x = 1 ∧ _)
    ∨ ((d.called ++ [listeners[d.index]]).count x = 0 ∧ _)
  rw [List.count_append]
  by_cases hxl : x = listeners[d.index]
  · -- it is its turn
    left
    rcases h x hx hkept with ⟨-, hpast⟩ | ⟨hzero, -⟩
    · exfalso
      apply hpast
      rw [hdrop, hxl]
      exact List.mem_cons_self
    · refine ⟨?_, ?_⟩
      · rw [hzero, hxl, List.count_singleton_self]
      · rw [hxl]
        exact hlater
  · have hother : [listeners[d.index]].count x = 0 :=
      List.count_eq_zero.2 fun hmem => hxl (List.mem_singleton.1 hmem)
    rw [hother]
    rcases h x hx hkept with ⟨hone, hpast⟩ | ⟨hzero, hfront⟩
    · left
      refine ⟨hone, fun hmem => hpast ?_⟩
      rw [hdrop]
      exact List.mem_cons_of_mem _ hmem
    · right
      rw [hdrop] at hfront
      rcases List.mem_cons.1 hfront with heq | hfront
      · exact absurd heq hxl
      · exact ⟨hzero, hfront⟩

/-- The loop ends. -/
theorem Turns.fair {listeners : List Nat} {d : Dispatch α}
    (h : Turns listeners d) (hend : listeners[d.index]? = none) :
    Fair d := by
  have hnone : listeners.drop d.index = [] :=
    List.drop_eq_nil_of_le (List.getElem?_eq_none_iff.1 hend)
  intro l hl hkept
  rcases h l hl hkept with ⟨hone, -⟩ | ⟨-, hfront⟩
  · exact hone
  · rw [hnone] at hfront
    cases hfront

/-- A listener is added. -/
theorem Turns.add {listeners : List Nat} {d : Dispatch α} {listener : Nat}
    (h : Turns listeners d)
    (hmay : d.index ≤ listeners.length → listener ∈ d.registered →
      listener ∈ d.removed) :
    Turns (listeners ++ [listener]) d := by
  intro l hl hkept
  by_cases hle : d.index ≤ listeners.length
  · rw [List.drop_append_of_le_length hle]
    rcases h l hl hkept with ⟨hone, hpast⟩ | ⟨hzero, hfront⟩
    · left
      refine ⟨hone, fun hmem => ?_⟩
      rcases List.mem_append.1 hmem with hold | hnew
      · exact hpast hold
      · rw [List.mem_singleton.1 hnew] at hl hkept
        exact hkept (hmay hle hl)
    · exact Or.inr ⟨hzero, List.mem_append_left _ hfront⟩
  · -- the loop is behind the end, and the new one too
    rcases h l hl hkept with ⟨hone, -⟩ | ⟨-, hfront⟩
    · left
      refine ⟨hone, fun hmem => ?_⟩
      rw [List.drop_eq_nil_of_le] at hmem
      · cases hmem
      · rw [List.length_append, List.length_singleton]
        omega
    · rw [List.drop_eq_nil_of_le (by omega)] at hfront
      cases hfront

/-- The place of a listener that is not in front. -/
theorem idxOf_cons_of_ne {x listener : Nat} (hne : x ≠ listener)
    (rest : List Nat) :
    (x :: rest).idxOf listener = rest.idxOf listener + 1 := by
  rw [List.idxOf_cons, beq_false_of_ne hne]
  rfl

/-- The places behind one that is taken out. -/
theorem drop_erase_of_lt {listeners : List Nat} {listener n : Nat}
    (hmem : listener ∈ listeners) (hlt : listeners.idxOf listener < n) :
    (listeners.erase listener).drop n = listeners.drop (n + 1) := by
  induction listeners generalizing n with
  | nil => cases hmem
  | cons x rest ih =>
      by_cases hx : x = listener
      · rw [hx, List.erase_cons_head]
        rfl
      · rw [List.erase_cons_tail (by simpa using hx)]
        rw [idxOf_cons_of_ne hx] at hlt
        cases n with
        | zero => omega
        | succ n =>
            rw [List.drop_succ_cons, List.drop_succ_cons]
            apply ih
            · rcases List.mem_cons.1 hmem with rfl | hmem
              · exact absurd rfl hx
              · exact hmem
            · omega

/-- The places in front of it keep who has them. -/
theorem mem_drop_erase {listeners : List Nat} {listener n l : Nat}
    (hle : n ≤ listeners.idxOf listener) (hne : l ≠ listener) :
    l ∈ (listeners.erase listener).drop n ↔ l ∈ listeners.drop n := by
  induction listeners generalizing n with
  | nil => rfl
  | cons x rest ih =>
      cases n with
      | zero =>
          rw [List.drop_zero, List.drop_zero]
          exact List.mem_erase_of_ne hne
      | succ n =>
          have hx : x ≠ listener := by
            rintro rfl
            rw [List.idxOf_cons_self] at hle
            omega
          rw [List.erase_cons_tail (by simpa using hx),
            List.drop_succ_cons, List.drop_succ_cons]
          apply ih
          rw [idxOf_cons_of_ne hx] at hle
          omega

/-- What the history of a removal leaves of a loop. -/
structure RemoveSame (d d' : Dispatch α) : Prop where
  event : d'.event = d.event
  index : d'.index = d.index
  registered : d'.registered = d.registered
  called : d'.called = d.called
  toProperty : d'.toProperty = d.toProperty

theorem remove_same (type : EventType) (listener : Nat)
    (d : Dispatch α) : RemoveSame d (Dispatch.remove type listener d) := by
  unfold Dispatch.remove
  split
  · exact ⟨rfl, rfl, rfl, rfl, rfl⟩
  · exact ⟨rfl, rfl, rfl, rfl, rfl⟩

/-- A listener is removed. -/
theorem Turns.remove {listeners : List Nat} {d : Dispatch α}
    {listener : Nat} (h : Turns listeners d)
    (hmem : listener ∈ listeners) (htype : d.event.type = .message)
    (hmay : listeners.idxOf listener < d.index →
      ∀ l ∈ listeners[d.index]?, l ∈ d.registered → l ∈ d.removed) :
    Turns (listeners.erase listener)
      (Dispatch.remove .message listener d) := by
  have hsame := remove_same .message listener d
  -- who was not removed before its turn, was not removed, or called before
  have hremoved : ∀ l, l ∉ (Dispatch.remove .message listener d).removed →
      l ∉ d.removed ∧ (l = listener → l ∈ d.called) := by
    intro l hkept
    unfold Dispatch.remove at hkept
    split at hkept
    · refine ⟨fun hold => hkept (List.mem_append_left _ hold), ?_⟩
      intro hl
      exfalso
      apply hkept
      rw [hl]
      exact List.mem_append_right _ (List.mem_singleton.2 rfl)
    · next hnot =>
      refine ⟨hkept, fun hl => ?_⟩
      rw [hl]
      exact Classical.byContradiction fun hcalled =>
        hnot ⟨htype, hcalled⟩
  intro l hl hkept
  rw [hsame.registered] at hl
  rw [hsame.called, hsame.index]
  obtain ⟨hold, hself⟩ := hremoved l hkept
  by_cases hlt : listeners.idxOf listener < d.index
  · rw [drop_erase_of_lt hmem hlt]
    rcases h l hl hold with ⟨hone, hpast⟩ | ⟨hzero, hfront⟩
    · left
      refine ⟨hone, fun hlater => hpast ?_⟩
      have hsub : (listeners.drop (d.index + 1)).Sublist
          (listeners.drop d.index) := by
        rw [← List.drop_drop]
        exact List.drop_sublist _ _
      exact hsub.subset hlater
    · right
      refine ⟨hzero, ?_⟩
      have hindex : d.index < listeners.length := by
        apply Nat.lt_of_not_le
        intro hge
        rw [List.drop_eq_nil_of_le hge] at hfront
        cases hfront
      rw [List.drop_eq_getElem_cons hindex] at hfront
      rcases List.mem_cons.1 hfront with hnext | hlater
      · exfalso
        apply hold
        apply hmay hlt l _ hl
        rw [List.getElem?_eq_getElem hindex, hnext]
        rfl
      · exact hlater
  · by_cases hself' : l = listener
    · -- it has been called, so a loop that is in front of it has not
      exfalso
      have hcalled := hself hself'
      have hfront : l ∈ listeners.drop d.index := by
        rw [hself']
        have hpos := List.idxOf_lt_length_of_mem hmem
        rw [List.mem_drop_iff_getElem]
        refine ⟨listeners.idxOf listener - d.index, by omega, ?_⟩
        have heq : d.index + (listeners.idxOf listener - d.index)
            = listeners.idxOf listener := by omega
        simp only [heq]
        exact List.getElem_idxOf hpos
      rcases h l hl hold with ⟨-, hpast⟩ | ⟨hzero, -⟩
      · exact hpast hfront
      · exact List.count_eq_zero.1 hzero hcalled
    · have hiff : l ∈ (listeners.erase listener).drop d.index
          ↔ l ∈ listeners.drop d.index :=
        mem_drop_erase (by omega) hself'
      rcases h l hl hold with ⟨hone, hpast⟩ | ⟨hzero, hfront⟩
      · exact Or.inl ⟨hone, fun hmem => hpast (hiff.1 hmem)⟩
      · exact Or.inr ⟨hzero, hiff.2 hfront⟩

-- ========================================================== the invariant

/-- What holds of a frame that has begun: a loop over the listeners for a
message has called the first of them and serves each in its turn, and a
property handler that was registered first is still there; what was queued
was not sent while the socket was open. -/
def FrameOk (listeners : List Nat) (property : Option Nat) :
    Frame α → Prop
  | .dispatch d =>
      (messagesOf d.event ≠ [] → 1 ≤ d.index ∧ Turns listeners d)
        ∧ (d.toProperty = true → openOnes (messagesOf d.event) ≠ [] →
            property ≠ none)
  | .queued ms => openOnes ms = []
  | _ => True

/-- The line of the messages, with `ms` between the buffer and the stack. -/
structure Flowing (ms : List (Message α)) (s : InlineWebSocket α) :
    Prop where
  order : openOnes s.toFirst
      ++ (s.waiting ++ (ms ++ s.stack.flatMap pendingIn))
    = openOnes s.sent
  queue : openOnes s.queuedMessages = []
  listening : s.eventListeners .message ≠ [] →
    openOnes (s.bufferedEvents.flatMap fun b => messagesOf b.event) = []
  assigned : s.properties .message ≠ none → s.waiting = []
  nodup : (s.eventListeners .message).Nodup
  frames : ∀ f ∈ s.stack,
    FrameOk (s.eventListeners .message) (s.properties .message) f
  fair : ∀ d ∈ s.dispatched, messagesOf d.event ≠ [] → Fair d

/-- The invariant: the line, or a dispatch is about to begin. -/
def Inv (s : InlineWebSocket α) : Prop :=
  Flowing [] s
    ∨ ∃ (event : Event α) (toProperty : Bool) (rest : List (Frame α)),
        s.stack = .dispatch { event, toProperty
                              registered := s.eventListeners event.type }
            :: rest
          ∧ s.eventListeners event.type ≠ []
          ∧ (toProperty = true → s.properties event.type ≠ none)
          ∧ Flowing (openOnes (messagesOf event)) { s with stack := rest }

variable {ms : List (Message α)}

/-- A message is dispatched as one. -/
theorem type_of_messages {event : Event α} (h : messagesOf event ≠ []) :
    event.type = .message := by
  cases event with
  | message m => rfl
  | opened => exact absurd rfl h
  | close event => exact absurd rfl h
  | error cause => exact absurd rfl h
  | custom type => exact absurd rfl h

/-- Messages that were sent while the socket was open are messages. -/
theorem messages_of_open {event : Event α}
    (h : openOnes (messagesOf event) ≠ []) : messagesOf event ≠ [] := by
  intro hnone
  rw [hnone] at h
  exact h rfl

/-- Nothing waits in a buffer without messages. -/
theorem waiting_nil
    (h : openOnes (s.bufferedEvents.flatMap fun b => messagesOf b.event)
      = []) : s.waiting = [] := by
  rw [List.eq_nil_iff_forall_not_mem] at h ⊢
  intro m hm
  apply h m
  unfold waiting openOnes at hm
  unfold openOnes
  rw [List.mem_filter, List.mem_flatMap] at hm ⊢
  obtain ⟨⟨b, hb, hmb⟩, hopen⟩ := hm
  exact ⟨⟨b, (List.mem_filter.1 hb).1, hmb⟩, hopen⟩

/-- With a listener for an event, nothing waits in front of its
messages. -/
theorem Flowing.listened (h : Flowing ms s) {event : Event α}
    (hlisteners : s.eventListeners event.type ≠ [])
    (hevent : messagesOf event ≠ []) : s.waiting = [] := by
  rw [type_of_messages hevent] at hlisteners
  exact waiting_nil (h.listening hlisteners)

/-- The frame on top comes off. -/
theorem Flowing.pop (h : Flowing ms s) {f : Frame α}
    {rest : List (Frame α)} (hstack : s.stack = f :: rest) :
    Flowing (ms ++ pendingIn f) { s with stack := rest } := by
  refine ⟨?_, h.queue, h.listening, h.assigned, h.nodup, ?_, h.fair⟩
  · have horder := h.order
    rw [hstack, List.flatMap_cons, ← List.append_assoc ms] at horder
    exact horder
  · intro g hg
    apply h.frames
    rw [hstack]
    exact List.mem_cons_of_mem f hg

/-- A frame goes on top. -/
theorem Flowing.push {f : Frame α} (h : Flowing (ms ++ pendingIn f) s)
    (hf : FrameOk (s.eventListeners .message) (s.properties .message) f) :
    Flowing ms { s with stack := f :: s.stack } := by
  refine ⟨?_, h.queue, h.listening, h.assigned, h.nodup, ?_, h.fair⟩
  · have horder := h.order
    rw [List.append_assoc ms] at horder
    exact horder
  · intro g hg
    rcases List.mem_cons.1 hg with rfl | hg
    · exact hf
    · exact h.frames g hg

/-- A frame goes on top that has nothing to do with messages. -/
theorem Flowing.pushPlain (h : Flowing ms s) (f : Frame α)
    (hpending : pendingIn f = [])
    (hf : FrameOk (s.eventListeners .message) (s.properties .message) f) :
    Flowing ms { s with stack := f :: s.stack } := by
  apply Flowing.push _ hf
  rw [hpending, List.append_nil]
  exact h

-- =========================================================== one dispatch

/-- Someone gets an event that was not registered first. -/
theorem Flowing.receive (h : Flowing ms s) (event : Event α) :
    Flowing ms (s.receive event false) := by
  cases event with
  | _ =>
      exact ⟨h.order, h.queue, h.listening, h.assigned, h.nodup, h.frames,
        h.fair⟩

/-- Whoever was registered first gets it, with nothing in front. -/
theorem Flowing.receiveFirst {event : Event α}
    (h : Flowing (openOnes (messagesOf event)) s)
    (hwaiting : messagesOf event ≠ [] → s.waiting = []) :
    Flowing [] (s.receive event true) := by
  cases event with
  | message m =>
      refine ⟨?_, h.queue, h.listening, h.assigned, h.nodup, h.frames,
        h.fair⟩
      have hnone : s.waiting = [] := hwaiting (List.cons_ne_nil m [])
      have horder := h.order
      rw [hnone, List.nil_append, ← List.append_assoc] at horder
      show openOnes (s.toFirst ++ [m]) ++ (s.waiting ++ _) = _
      rw [hnone]
      unfold openOnes at horder ⊢
      rw [List.filter_append]
      exact horder
  | opened =>
      exact ⟨h.order, h.queue, h.listening, h.assigned, h.nodup, h.frames,
        h.fair⟩
  | close event =>
      exact ⟨h.order, h.queue, h.listening, h.assigned, h.nodup, h.frames,
        h.fair⟩
  | error cause =>
      exact ⟨h.order, h.queue, h.listening, h.assigned, h.nodup, h.frames,
        h.fair⟩
  | custom type =>
      exact ⟨h.order, h.queue, h.listening, h.assigned, h.nodup, h.frames,
        h.fair⟩

/-- A property handler that was not registered first. -/
theorem Flowing.callProperty (h : Flowing [] s) (event : Event α) :
    Flowing [] (s.callProperty event false) := by
  unfold InlineWebSocket.callProperty
  split
  · exact h
  · exact Flowing.receive (h.pushPlain .listener rfl trivial) event

/-- One that was. -/
theorem Flowing.callPropertyFirst {event : Event α}
    (h : Flowing (openOnes (messagesOf event)) s)
    (hproperty : openOnes (messagesOf event) ≠ [] →
      s.properties event.type ≠ none) :
    Flowing [] (s.callProperty event true) := by
  unfold InlineWebSocket.callProperty
  split
  · next hnone =>
    have hms : openOnes (messagesOf event) = [] :=
      Classical.byContradiction fun hms => hproperty hms hnone
    rw [hms] at h
    exact h
  · next handler hsome =>
    apply Flowing.receiveFirst
    · exact h.pushPlain .listener rfl trivial
    · intro hevent
      apply h.assigned
      rw [← type_of_messages hevent, hsome]
      exact Option.some_ne_none handler

/-- A dispatch: into the buffer and to the property handler, or to the
first listener. -/
theorem Flowing.dispatchEvent {event : Event α}
    (h : Flowing (openOnes (messagesOf event)) s) :
    Inv (s.dispatchEvent event) := by
  unfold InlineWebSocket.dispatchEvent
  split
  · next hnone =>
    left
    have hlistening : s.eventListeners .message ≠ [] →
        openOnes ((s.bufferedEvents
          ++ [BufferedEvent.mk event
            (s.properties event.type).isSome]).flatMap
              fun b => messagesOf b.event) = [] := by
      intro hlisteners
      have hevent : messagesOf event = [] := by
        apply Classical.byContradiction
        intro hevent
        rw [type_of_messages hevent] at hnone
        exact hlisteners hnone
      rw [List.flatMap_append, List.flatMap_singleton, hevent,
        List.append_nil]
      exact h.listening hlisteners
    cases hproperty : s.properties event.type with
    | none =>
        have hcall : InlineWebSocket.callProperty event true { s with
            bufferedEvents := s.bufferedEvents
              ++ [BufferedEvent.mk event false] }
            = { s with
              bufferedEvents := s.bufferedEvents
                ++ [BufferedEvent.mk event false] } := by
          unfold InlineWebSocket.callProperty
          dsimp only
          rw [hproperty]
        have hwaiting : waiting { s with
            bufferedEvents := s.bufferedEvents
              ++ [BufferedEvent.mk event false] }
            = s.waiting ++ openOnes (messagesOf event) := by
          unfold waiting openOnes
          rw [List.filter_append, List.flatMap_append, List.filter_append]
          show _ ++ List.filter _ (messagesOf event ++ []) = _
          rw [List.append_nil]
        rw [hproperty] at hlistening
        show Flowing [] (InlineWebSocket.callProperty event true _)
        rw [show (none : Option Nat).isSome = false from rfl, hcall]
        refine ⟨?_, h.queue, hlistening, ?_, h.nodup, h.frames, h.fair⟩
        · rw [hwaiting, List.append_assoc]
          exact h.order
        · intro hassigned
          rw [hwaiting, h.assigned hassigned, List.nil_append]
          apply Classical.byContradiction
          intro hms
          rw [type_of_messages (messages_of_open hms)] at hproperty
          exact hassigned hproperty
    | some handler =>
        have hwaiting : waiting { s with
            bufferedEvents := s.bufferedEvents
              ++ [BufferedEvent.mk event true] }
            = s.waiting := by
          unfold waiting openOnes
          rw [List.filter_append, List.flatMap_append, List.filter_append]
          exact List.append_nil _
        rw [hproperty] at hlistening
        apply Flowing.callPropertyFirst
        · refine ⟨?_, h.queue, hlistening, ?_, h.nodup, h.frames, h.fair⟩
          · show _ ++ (waiting _ ++ _) = _
            rw [show (some handler).isSome = true from rfl, hwaiting]
            exact h.order
          · intro hassigned
            rw [show (some handler).isSome = true from rfl, hwaiting]
            exact h.assigned hassigned
        · intro _
          show s.properties event.type ≠ none
          rw [hproperty]
          exact Option.some_ne_none handler
  · next l ls hlisteners =>
    right
    refine ⟨event,
      (s.properties event.type).isSome && decide (s.before = 0), s.stack,
      ?_, ?_, ?_, h⟩
    · show Frame.dispatch { event, registered := l :: ls, toProperty := _ }
          :: s.stack
        = Frame.dispatch { event, registered := s.eventListeners event.type
                           toProperty := _ } :: s.stack
      rw [hlisteners]
    · show s.eventListeners event.type ≠ []
      rw [hlisteners]
      exact List.cons_ne_nil l ls
    · intro htoProperty hnone
      have hnone : s.properties event.type = none := hnone
      rw [hnone] at htoProperty
      cases htoProperty

/-- An event without a message. -/
theorem receive_plain {event : Event α} (hevent : messagesOf event = [])
    (first : Bool) : s.receive event first = s := by
  cases event with
  | message m => cases hevent
  | _ => rfl

/-- What is pending in a loop that has begun. -/
theorem pendingIn_dispatch {d : Dispatch α}
    (hbegun : messagesOf d.event ≠ [] → 1 ≤ d.index) :
    pendingIn (.dispatch d)
      = if d.toProperty then openOnes (messagesOf d.event) else [] := by
  show (if d.toProperty = true ∨ d.index = 0 then
    openOnes (messagesOf d.event) else []) = _
  by_cases hevent : messagesOf d.event = []
  · rw [hevent]
    show (if _ then [] else []) = if _ then [] else []
    rw [ite_self, ite_self]
  · have hindex := hbegun hevent
    by_cases hproperty : d.toProperty = true
    · rw [if_pos (Or.inl hproperty), if_pos hproperty]
    · rw [if_neg hproperty, if_neg]
      rintro (h | h)
      · exact hproperty h
      · omega

/-- A loop that has begun goes on. -/
theorem Flowing.dispatchLoop (h : Flowing [] s) {d : Dispatch α}
    {rest : List (Frame α)} (hstack : s.stack = .dispatch d :: rest) :
    Flowing [] (s.dispatchLoop d rest) := by
  have hframe : FrameOk (s.eventListeners .message)
      (s.properties .message) (.dispatch d) := by
    apply h.frames
    rw [hstack]
    exact List.mem_cons_self
  obtain ⟨hturns, hproperty⟩ := hframe
  have hpending := pendingIn_dispatch fun hevent => (hturns hevent).1
  have hpop := h.pop hstack
  rw [List.nil_append] at hpop
  unfold InlineWebSocket.dispatchLoop
  split
  · next l hnext =>
    have hpush : Flowing [] { s with
        stack := .dispatch { d with
          index := d.index + 1
          called := d.called ++ [l] } :: rest } := by
      apply Flowing.push (s := { s with stack := rest })
      · rw [List.nil_append, pendingIn_dispatch fun _ =>
          Nat.le_add_left 1 d.index, ← hpending]
        exact hpop
      · refine ⟨fun hevent => ⟨Nat.le_add_left 1 d.index, ?_⟩, hproperty⟩
        rw [type_of_messages hevent] at hnext
        exact (hturns hevent).2.call h.nodup hnext
    have hlistener := hpush.pushPlain .listener rfl trivial
    by_cases hevent : messagesOf d.event = []
    · rw [receive_plain hevent]
      exact hlistener
    · have hindex : ¬ d.index = 0 := by
        have := (hturns hevent).1
        omega
      rw [decide_eq_false hindex, Bool.false_and]
      exact hlistener.receive d.event
  · next hend =>
    have hdone : Flowing (pendingIn (.dispatch d)) { s with
        stack := rest
        dispatched := s.dispatched ++ [d] } := by
      refine ⟨hpop.order, hpop.queue, hpop.listening, hpop.assigned,
        hpop.nodup, hpop.frames, ?_⟩
      intro e he hevent
      rcases List.mem_append.1 he with hold | hnew
      · exact h.fair e hold hevent
      · rw [List.mem_singleton.1 hnew] at hevent ⊢
        rw [type_of_messages hevent] at hend
        exact (hturns hevent).2.fair hend
    rw [hpending] at hdone
    cases htoProperty : d.toProperty with
    | true =>
        rw [htoProperty] at hdone
        apply Flowing.callPropertyFirst hdone
        intro hopen
        rw [type_of_messages (messages_of_open hopen)]
        exact hproperty htoProperty hopen
    | false =>
        rw [htoProperty] at hdone
        exact Flowing.callProperty hdone d.event

/-- A loop begins. -/
theorem Flowing.dispatchBegin {event : Event α} {toProperty : Bool}
    {rest : List (Frame α)}
    (h : Flowing (openOnes (messagesOf event)) { s with stack := rest })
    (hlisteners : s.eventListeners event.type ≠ [])
    (hproperty : toProperty = true → s.properties event.type ≠ none) :
    Flowing [] (s.dispatchLoop
      { event, toProperty, registered := s.eventListeners event.type }
      rest) := by
  unfold InlineWebSocket.dispatchLoop
  dsimp only
  cases hfound : s.eventListeners event.type with
  | nil => exact absurd hfound hlisteners
  | cons l ls =>
  show Flowing [] (InlineWebSocket.receive event (true && !toProperty)
    { s with
      stack := .listener :: .dispatch
        { event, toProperty
          index := 1
          registered := l :: ls
          called := [l] } :: rest })
  rw [Bool.true_and]
  have hok : FrameOk (s.eventListeners .message) (s.properties .message)
      (.dispatch
        { event, toProperty
          index := 1
          registered := l :: ls
          called := [l] }) := by
    refine ⟨fun hevent => ⟨Nat.le_refl 1, ?_⟩, fun hto hopen => ?_⟩
    · have htype := type_of_messages hevent
      rw [htype] at hfound
      rw [hfound]
      have hnodup : (l :: ls).Nodup := hfound ▸ h.nodup
      exact (turns_begin event (l :: ls) toProperty).call hnodup rfl
    · rw [← type_of_messages (messages_of_open hopen)]
      exact hproperty hto
  cases toProperty with
  | true =>
      have hpush : Flowing [] { s with
          stack := .dispatch
            { event
              index := 1
              registered := l :: ls
              called := [l]
              toProperty := true } :: rest } :=
        Flowing.push (s := { s with stack := rest }) h hok
      exact (hpush.pushPlain .listener rfl trivial).receive event
  | false =>
      have hpush : Flowing (openOnes (messagesOf event)) { s with
          stack := .dispatch
            { event
              index := 1
              registered := l :: ls
              called := [l]
              toProperty := false } :: rest } :=
        Flowing.pushPlain (s := { s with stack := rest }) h _ rfl hok
      apply Flowing.receiveFirst (hpush.pushPlain .listener rfl trivial)
      exact fun hevent => h.listened hlisteners hevent

-- ================================================== the calls of the ends

/-- The messages of some buffered events. -/
def messagesAll (buffer : List (BufferedEvent α)) : List (Message α) :=
  buffer.flatMap fun b => messagesOf b.event

/-- What a flush takes. -/
theorem messages_eventsOf (type : EventType)
    (buffer : List (BufferedEvent α)) :
    (eventsOf type buffer).flatMap messagesOf
      = messagesAll (buffer.filter fun b => decide (b.event.type = type)) := by
  unfold eventsOf messagesAll
  rw [List.filter_map, List.flatMap_map]
  rfl

/-- The messages are under their own type. -/
theorem messages_typed (buffer : List (BufferedEvent α)) :
    messagesAll (buffer.filter fun b => decide (b.event.type = .message))
      = messagesAll buffer := by
  induction buffer with
  | nil => rfl
  | cons b buffer ih =>
      unfold messagesAll at ih ⊢
      rw [List.filter_cons, List.flatMap_cons]
      by_cases htype : b.event.type = .message
      · rw [decide_eq_true htype, if_pos rfl, List.flatMap_cons, ih]
      · have hnone : messagesOf b.event = [] :=
          Classical.byContradiction fun hevent =>
            htype (type_of_messages hevent)
        rw [decide_eq_false htype, if_neg Bool.false_ne_true, hnone]
        exact ih

/-- Under another type there are none. -/
theorem messages_other {type : EventType} (htype : type ≠ .message)
    (buffer : List (BufferedEvent α)) :
    messagesAll (buffer.filter fun b => decide (b.event.type = type))
      = [] := by
  unfold messagesAll
  rw [List.flatMap_eq_nil_iff]
  intro b hb
  apply Classical.byContradiction
  intro hevent
  apply htype
  rw [← type_of_messages hevent]
  exact (of_decide_eq_true (List.mem_filter.1 hb).2).symm

/-- What a flush leaves. -/
theorem messages_kept (type : EventType)
    (buffer : List (BufferedEvent α)) :
    messagesAll (buffer.filter fun b => decide (b.event.type ≠ type))
      = if type = .message then [] else messagesAll buffer := by
  induction buffer with
  | nil =>
      show [] = if type = .message then [] else []
      rw [ite_self]
  | cons b buffer ih =>
      unfold messagesAll at ih ⊢
      rw [List.filter_cons, List.flatMap_cons]
      by_cases htype : b.event.type = type
      · rw [decide_eq_false (not_not_intro htype),
          if_neg Bool.false_ne_true, ih]
        by_cases hmessage : type = .message
        · rw [if_pos hmessage, if_pos hmessage]
        · have hnone : messagesOf b.event = [] :=
            Classical.byContradiction fun hevent =>
              hmessage (htype ▸ type_of_messages hevent)
          rw [if_neg hmessage, if_neg hmessage, hnone]
          rfl
      · rw [decide_eq_true htype, if_pos rfl, List.flatMap_cons, ih]
        by_cases hmessage : type = .message
        · have hnone : messagesOf b.event = [] :=
            Classical.byContradiction fun hevent =>
              htype (hmessage ▸ type_of_messages hevent)
          rw [if_pos hmessage, if_pos hmessage, hnone]
          rfl
        · rw [if_neg hmessage, if_neg hmessage]

/-- What waits, if nothing that was seen was sent while it was open. -/
theorem openOnes_unseen {buffer : List (BufferedEvent α)}
    (hseen : ∀ b ∈ buffer, b.seen = true →
      openOnes (messagesOf b.event) = []) :
    openOnes (messagesAll buffer)
      = openOnes (messagesAll (buffer.filter fun b => !b.seen)) := by
  induction buffer with
  | nil => rfl
  | cons b buffer ih =>
      have ih := ih fun x hx => hseen x (List.mem_cons_of_mem b hx)
      have hfirst := hseen b List.mem_cons_self
      unfold messagesAll openOnes at ih hfirst ⊢
      rw [List.filter_cons, List.flatMap_cons, List.filter_append, ih]
      cases hb : b.seen with
      | true =>
          rw [hfirst hb]
          rfl
      | false =>
          show _ = List.filter _ (List.flatMap _ (b :: _))
          rw [List.flatMap_cons, List.filter_append]

/-- `addEventListener`. -/
theorem Flowing.addEventListener (h : Flowing [] s) {type : EventType}
    {listener : Nat}
    (hok : s.Undisturbed (.op (.addEventListener type listener))) :
    Flowing [] (s.addEventListener type listener) := by
  have hunseen : ∀ t : InlineWebSocket α, t.waiting
      = openOnes (messagesAll (t.bufferedEvents.filter fun b => !b.seen)) :=
    fun t => rfl
  have hwaiting : (s.addEventListener type listener).waiting
      = if type = .message then [] else s.waiting := by
    rw [hunseen, hunseen]
    show openOnes (messagesAll ((s.bufferedEvents.filter
      fun b => decide (b.event.type ≠ type)).filter fun b => !b.seen)) = _
    rw [List.filter_filter]
    rw [show (fun b : BufferedEvent α => !b.seen
        && decide (b.event.type ≠ type))
      = fun b => decide (b.event.type ≠ type) && !b.seen from
      funext fun b => Bool.and_comm _ _, ← List.filter_filter,
      messages_kept]
    by_cases hmessage : type = .message
    · rw [if_pos hmessage, if_pos hmessage]
      rfl
    · rw [if_neg hmessage, if_neg hmessage]
  have hbuffer : messagesAll (s.addEventListener type listener).bufferedEvents
      = if type = .message then [] else messagesAll s.bufferedEvents :=
    messages_kept type s.bufferedEvents
  have hpending : pendingIn (.flush (eventsOf type s.bufferedEvents))
      = openOnes (messagesAll (s.bufferedEvents.filter fun b =>
        decide (b.event.type = type))) := by
    show openOnes ((eventsOf type s.bufferedEvents).flatMap messagesOf) = _
    rw [messages_eventsOf]
  by_cases hmessage : type = .message
  · subst hmessage
    obtain ⟨hnew, hseen, hmay⟩ := hok
    rw [if_pos rfl] at hwaiting hbuffer
    rw [messages_typed, openOnes_unseen hseen, ← hunseen] at hpending
    have hlisteners :
        (s.addEventListener .message listener).eventListeners .message
          = s.eventListeners .message ++ [listener] := rfl
    refine ⟨?_, h.queue, ?_, ?_, ?_, ?_, h.fair⟩
    · rw [hwaiting]
      show _ ++ ([] ++ ([] ++ (pendingIn _ ++ _))) = _
      rw [hpending]
      exact h.order
    · intro _
      show openOnes (messagesAll _) = []
      rw [hbuffer]
      rfl
    · exact fun _ => hwaiting
    · rw [hlisteners, List.nodup_append]
      refine ⟨h.nodup, List.pairwise_singleton _ _, ?_⟩
      intro a ha b hb heq
      rw [List.mem_singleton.1 hb] at heq
      rw [heq] at ha
      exact hnew ha
    · rw [hlisteners]
      intro f hf
      rcases List.mem_cons.1 hf with rfl | hf
      · exact trivial
      · have hframe := h.frames f hf
        have hadd := hmay f hf
        cases f with
        | dispatch d =>
            refine ⟨fun hevent => ?_, hframe.2⟩
            obtain ⟨hindex, hturns⟩ := hframe.1 hevent
            exact ⟨hindex, hturns.add (hadd hevent)⟩
        | _ => exact hframe
  · rw [if_neg hmessage] at hwaiting hbuffer
    rw [messages_other hmessage] at hpending
    have hlisteners :
        (s.addEventListener type listener).eventListeners .message
          = s.eventListeners .message :=
      if_neg fun heq => hmessage heq.symm
    refine ⟨?_, h.queue, ?_, ?_, ?_, ?_, h.fair⟩
    · rw [hwaiting]
      show _ ++ (_ ++ ([] ++ (pendingIn _ ++ _))) = _
      rw [hpending]
      exact h.order
    · rw [hlisteners]
      intro hsome
      show openOnes (messagesAll _) = []
      rw [hbuffer]
      exact h.listening hsome
    · intro hassigned
      rw [hwaiting]
      exact h.assigned hassigned
    · rw [hlisteners]
      exact h.nodup
    · rw [hlisteners]
      intro f hf
      rcases List.mem_cons.1 hf with rfl | hf
      · exact trivial
      · exact h.frames f hf

/-- The history of a frame is not what is pending in it. -/
theorem pendingIn_removeFrame (type : EventType) (listener : Nat)
    (f : Frame α) :
    pendingIn (removeFrame type listener f) = pendingIn f := by
  cases f with
  | dispatch d =>
      show pendingIn (.dispatch (Dispatch.remove type listener d)) = _
      unfold Dispatch.remove
      split
      · rfl
      · rfl
  | _ => rfl

/-- `removeEventListener`. -/
theorem Flowing.removeEventListener (h : Flowing [] s) {type : EventType}
    {listener : Nat}
    (hok : s.Undisturbed (.op (.removeEventListener type listener))) :
    Flowing [] (s.removeEventListener type listener) := by
  unfold InlineWebSocket.removeEventListener
  split
  case isFalse => exact h
  case isTrue hmem =>
  have hstack : (s.stack.map (removeFrame type listener)).flatMap pendingIn
      = s.stack.flatMap pendingIn := by
    rw [List.flatMap_map]
    congr 1
    exact funext fun f => pendingIn_removeFrame type listener f
  refine ⟨?_, h.queue, ?_, h.assigned, ?_, ?_, h.fair⟩
  · show _ ++ (_ ++ ([] ++ (s.stack.map _).flatMap pendingIn)) = _
    rw [hstack]
    exact h.order
  · intro hsome
    apply h.listening
    intro hnone
    apply hsome
    show (if EventType.message = type then _ else _) = []
    rw [hnone]
    show (if EventType.message = type then [] else []) = []
    exact ite_self _
  · show List.Nodup (if EventType.message = type then
      (s.eventListeners .message).erase listener
      else s.eventListeners .message)
    split
    · exact h.nodup.erase listener
    · exact h.nodup
  · intro f hf
    obtain ⟨g, hg, rfl⟩ := List.mem_map.1 hf
    have hframe := h.frames g hg
    show FrameOk (if EventType.message = type then
      (s.eventListeners .message).erase listener
      else s.eventListeners .message) _ _
    by_cases hmessage : EventType.message = type
    · rw [if_pos hmessage]
      subst hmessage
      have hmay := hok g hg
      cases g with
      | dispatch d =>
          show FrameOk _ _
            (.dispatch (Dispatch.remove .message listener d))
          have hsame := remove_same .message listener d
          refine ⟨fun hevent => ?_, fun hto hopen => ?_⟩
          · rw [hsame.event] at hevent
            obtain ⟨hindex, hturns⟩ := hframe.1 hevent
            rw [hsame.index]
            exact ⟨hindex, hturns.remove hmem (type_of_messages hevent)
              (hmay hevent)⟩
          · rw [hsame.event] at hopen
            rw [hsame.toProperty] at hto
            exact hframe.2 hto hopen
      | _ => exact hframe
    · rw [if_neg hmessage]
      cases g with
      | dispatch d =>
          show FrameOk _ _ (.dispatch (Dispatch.remove type listener d))
          have hsame := remove_same type listener d
          refine ⟨fun hevent => ?_, fun hto hopen => ?_⟩
          · -- a loop for a message keeps its history
            rw [hsame.event] at hevent
            have hnot : d.event.type ≠ type := fun htype =>
              hmessage ((type_of_messages hevent).symm.trans htype)
            unfold Dispatch.remove
            rw [if_neg fun hand => hnot hand.1]
            exact hframe.1 hevent
          · rw [hsame.event] at hopen
            rw [hsame.toProperty] at hto
            exact hframe.2 hto hopen
      | _ => exact hframe

/-- The setters. -/
theorem Flowing.setProperty (h : Flowing [] s) {type : EventType}
    {handler : Option Nat}
    (hok : s.Undisturbed (.op (.setProperty type handler))) :
    Flowing [] (s.setProperty type handler) := by
  cases type with
  | message =>
      obtain ⟨hwaiting, hmay⟩ := hok
      refine ⟨h.order, h.queue, h.listening, hwaiting, h.nodup, ?_,
        h.fair⟩
      intro f hf
      have hframe := h.frames f hf
      have hassign := hmay f hf
      cases f with
      | dispatch d =>
          refine ⟨hframe.1, fun hto hopen => ?_⟩
          have hnot : d.toProperty = false := hassign hopen
          rw [hnot] at hto
          cases hto
      | _ => exact hframe
  | _ =>
      exact ⟨h.order, h.queue, h.listening, h.assigned, h.nodup, h.frames,
        h.fair⟩

/-- `#handleMessage` of a message that was not sent while the socket was
open. -/
theorem Flowing.handleMessage (h : Flowing [] s) {m : Message α}
    (hm : openOnes [m] = []) : Inv (s.handleMessage m) := by
  unfold InlineWebSocket.handleMessage
  split
  · left
    refine ⟨h.order, ?_, h.listening, h.assigned, h.nodup, h.frames,
      h.fair⟩
    show openOnes (s.queuedMessages ++ [m]) = []
    have hqueue := h.queue
    unfold openOnes at hm hqueue ⊢
    rw [List.filter_append, hm, hqueue]
    rfl
  · apply Flowing.dispatchEvent
    show Flowing (openOnes [m]) s
    rw [hm]
    exact h

/-- `wsContext.send`. -/
theorem Flowing.wsSend (h : Flowing [] s) {data : α}
    (hok : s.Undisturbed (.op (.wsSend data))) : Inv (s.wsSend data) := by
  unfold InlineWebSocket.wsSend
  dsimp only
  by_cases hopen : s.readyState = .opened
  · have hnone : s.stack.flatMap pendingIn = [] :=
      List.flatMap_eq_nil_iff.2 (hok hopen)
    have hone : openOnes [Message.mk s.sent.length s.readyState data]
        = [⟨s.sent.length, s.readyState, data⟩] := by
      unfold openOnes
      rw [List.filter_cons, if_pos (decide_eq_true hopen)]
      rfl
    unfold InlineWebSocket.handleMessage
    rw [if_neg (not_not_intro hopen)]
    apply Flowing.dispatchEvent
    show Flowing (openOnes [Message.mk s.sent.length s.readyState data]) _
    rw [hone]
    refine ⟨?_, h.queue, h.listening, h.assigned, h.nodup, h.frames,
      h.fair⟩
    have horder := h.order
    show openOnes s.toFirst ++ (s.waiting
        ++ ([Message.mk s.sent.length s.readyState data]
          ++ s.stack.flatMap pendingIn))
      = openOnes (s.sent ++ [⟨s.sent.length, s.readyState, data⟩])
    rw [hnone] at horder ⊢
    rw [List.append_nil, List.append_nil] at horder
    unfold openOnes at horder hone ⊢
    rw [List.filter_append, hone, List.append_nil, ← List.append_assoc,
      horder]
  · have hnone : openOnes [Message.mk s.sent.length s.readyState data]
        = [] := by
      unfold openOnes
      rw [List.filter_cons, if_neg (by simpa using hopen)]
      rfl
    apply Flowing.handleMessage _ hnone
    refine ⟨?_, h.queue, h.listening, h.assigned, h.nodup, h.frames,
      h.fair⟩
    have horder := h.order
    show openOnes s.toFirst ++ (s.waiting
        ++ ([] ++ s.stack.flatMap pendingIn))
      = openOnes (s.sent ++ [⟨s.sent.length, s.readyState, data⟩])
    unfold openOnes at horder hnone ⊢
    rw [List.filter_append, hnone, List.append_nil]
    exact horder

-- ============================================================== one step

/-- An event without a message is dispatched. -/
theorem Flowing.dispatchPlain (h : Flowing [] s) (event : Event α)
    (hevent : messagesOf event = []) : Inv (s.dispatchEvent event) := by
  apply Flowing.dispatchEvent
  rw [hevent]
  exact h

/-- A close event. -/
theorem Flowing.raiseClose (h : Flowing [] s) (code : Nat)
    (reason : String) : Inv (s.raiseClose code reason) := by
  apply Flowing.dispatchPlain _ _ rfl
  exact ⟨h.order, h.queue, h.listening, h.assigned, h.nodup, h.frames,
    h.fair⟩

/-- `close`. -/
theorem Flowing.close (h : Flowing [] s) (code : Nat) (reason : String) :
    Flowing [] (s.close code reason) := by
  unfold InlineWebSocket.close
  split
  · exact h
  · have hpush := h.pushPlain (.onClose code reason) rfl trivial
    exact ⟨hpush.order, hpush.queue, hpush.listening, hpush.assigned,
      hpush.nodup, hpush.frames, hpush.fair⟩

/-- A call of an end. -/
theorem Flowing.call (h : Flowing [] s) {o : SocketOp α}
    (hok : s.Undisturbed (.op o)) : Inv (s.call o) := by
  cases o with
  | send =>
      show Inv s.send
      unfold InlineWebSocket.send
      split
      · exact h.dispatchPlain (.error .notOpen) rfl
      · have hpush := h.pushPlain .onMessage rfl trivial
        exact Or.inl ⟨hpush.order, hpush.queue, hpush.listening,
          hpush.assigned, hpush.nodup, hpush.frames, hpush.fair⟩
  | close code reason =>
      left
      apply Flowing.close
      exact ⟨h.order, h.queue, h.listening, h.assigned, h.nodup, h.frames,
        h.fair⟩
  | addEventListener type listener => exact Or.inl (h.addEventListener hok)
  | removeEventListener type listener =>
      exact Or.inl (h.removeEventListener hok)
  | setProperty type handler => exact Or.inl (h.setProperty hok)
  | dispatchEvent type => exact h.dispatchPlain (.custom type) rfl
  | wsSend data => exact h.wsSend hok
  | wsClose code reason =>
      show Inv (InlineWebSocket.handleClose _ _ { s with closures := _ })
      unfold InlineWebSocket.handleClose
      split
      · exact Or.inl ⟨h.order, h.queue, h.listening, h.assigned, h.nodup,
          h.frames, h.fair⟩
      · apply Flowing.raiseClose
        exact ⟨h.order, h.queue, h.listening, h.assigned, h.nodup,
          h.frames, h.fair⟩

/-- Whether a loop is on top. -/
def loopOnTop : List (Frame α) → Bool
  | .dispatch _ :: _ => true
  | _ => false

/-- With none on top, the line is as it is between two steps. -/
theorem Inv.flowing (h : Inv s) (hno : loopOnTop s.stack = false) :
    Flowing [] s := by
  rcases h with h | ⟨event, toProperty, rest, hstack, -⟩
  · exact h
  · rw [hstack] at hno
    cases hno

/-- Another frame on top. -/
theorem Inv.flowing_cons (h : Inv s) {f : Frame α}
    {rest : List (Frame α)} (hstack : s.stack = f :: rest)
    (hno : loopOnTop [f] = false) : Flowing [] s := by
  apply h.flowing
  rw [hstack]
  cases f with
  | dispatch d => cases hno
  | _ => rfl

/-- A frame that is done, or goes on as another. -/
theorem Flowing.popPlain (h : Flowing [] s) {f : Frame α}
    {rest : List (Frame α)} (hstack : s.stack = f :: rest)
    (hpending : pendingIn f = []) : Flowing [] { s with stack := rest } := by
  have hpop := h.pop hstack
  rw [hpending] at hpop
  exact hpop

/-- The function on top returns. -/
theorem Inv.ret (h : Inv s) (hret : s.ret = some s') : Inv s' := by
  unfold InlineWebSocket.ret at hret
  split at hret
  · next rest hstack =>
    rw [← Option.some.inj hret]
    have hflow := h.flowing_cons hstack rfl
    have hpop := hflow.popPlain hstack rfl
    have hpush := hpop.pushPlain .opened rfl trivial
    apply Flowing.dispatchPlain _ _ rfl
    exact ⟨hpush.order, hpush.queue, hpush.listening, hpush.assigned,
      hpush.nodup, hpush.frames, hpush.fair⟩
  · next code reason rest hstack =>
    rw [← Option.some.inj hret]
    have hflow := h.flowing_cons hstack rfl
    have hpop := hflow.popPlain hstack rfl
    apply Flowing.raiseClose
    exact ⟨hpop.order, hpop.queue, hpop.listening, hpop.assigned,
      hpop.nodup, hpop.frames, hpop.fair⟩
  · next rest hstack =>
    rw [← Option.some.inj hret]
    have hflow := h.flowing_cons hstack rfl
    exact Or.inl (hflow.popPlain hstack rfl)
  · next rest hstack =>
    rw [← Option.some.inj hret]
    have hflow := h.flowing_cons hstack rfl
    exact Or.inl (hflow.popPlain hstack rfl)
  · cases hret

/-- The adapter goes on. -/
theorem Inv.internal (h : Inv s) (hinternal : s.internal = some s') :
    Inv s' := by
  unfold InlineWebSocket.internal at hinternal
  split at hinternal
  · next d rest hstack =>
    rw [← Option.some.inj hinternal]
    left
    rcases h with h | ⟨event, toProperty, rest', hbegin, hlisteners,
      hproperty, hrest⟩
    · exact h.dispatchLoop hstack
    · rw [hbegin] at hstack
      injection hstack with hframe hrest'
      injection hframe with hd
      rw [← hd, ← hrest']
      exact hrest.dispatchBegin hlisteners hproperty
  · next rest hstack =>
    rw [← Option.some.inj hinternal]
    have hflow := h.flowing_cons hstack rfl
    exact Or.inl (hflow.popPlain hstack rfl)
  · next event events rest hstack =>
    rw [← Option.some.inj hinternal]
    have hflow := h.flowing_cons hstack rfl
    apply Flowing.dispatchEvent
    have hpop := hflow.pop hstack
    have hsplit : pendingIn (.flush (event :: events))
        = openOnes (messagesOf event) ++ pendingIn (.flush events) := by
      show openOnes (List.flatMap messagesOf (event :: events)) = _
      rw [List.flatMap_cons]
      exact List.filter_append _ _
    rw [List.nil_append, hsplit] at hpop
    exact hpop.push (f := .flush events) trivial
  · next rest hstack =>
    have hflow := h.flowing_cons hstack rfl
    have hpop := hflow.popPlain hstack rfl
    split at hinternal
    · rw [← Option.some.inj hinternal]
      exact Or.inl hpop
    · rw [← Option.some.inj hinternal]
      left
      have hpush := hpop.pushPlain (.queued s.queuedMessages) rfl hflow.queue
      exact ⟨hpush.order, rfl, hpush.listening, hpush.assigned,
        hpush.nodup, hpush.frames, hpush.fair⟩
  · next rest hstack =>
    rw [← Option.some.inj hinternal]
    have hflow := h.flowing_cons hstack rfl
    exact Or.inl (hflow.popPlain hstack rfl)
  · next m ms rest hstack =>
    rw [← Option.some.inj hinternal]
    have hflow := h.flowing_cons hstack rfl
    have hqueued : openOnes (m :: ms) = [] := by
      apply hflow.frames (.queued (m :: ms))
      rw [hstack]
      exact List.mem_cons_self
    have hsplit : openOnes [m] = [] ∧ openOnes ms = [] := by
      rw [← List.append_eq_nil_iff]
      rw [← List.singleton_append] at hqueued
      unfold openOnes at hqueued ⊢
      rw [List.filter_append] at hqueued
      exact hqueued
    apply Flowing.handleMessage _ hsplit.1
    exact (hflow.popPlain hstack rfl).pushPlain (.queued ms) rfl hsplit.2
  · next rest hstack =>
    rw [← Option.some.inj hinternal]
    have hflow := h.flowing_cons hstack rfl
    have hpop := hflow.popPlain hstack rfl
    left
    apply Flowing.close
    exact ⟨hpop.order, hpop.queue, hpop.listening, hpop.assigned,
      hpop.nodup, hpop.frames, hpop.fair⟩
  · cases hinternal

/-- One step. -/
theorem Inv.step {a : SocketStep α} (h : Inv s) (hok : s.Undisturbed a)
    (hstep : s.step a = some s') : Inv s' := by
  cases a with
  | op o =>
      simp only [InlineWebSocket.step] at hstep
      split at hstep
      · next htop =>
        rw [← Option.some.inj hstep]
        refine (h.flowing ?_).call hok
        cases hstack : s.stack with
        | nil => rfl
        | cons f rest =>
            rw [hstack] at htop
            cases f with
            | dispatch d => cases htop
            | _ => rfl
      · cases hstep
  | ret => exact h.ret hstep
  | throws =>
      simp only [InlineWebSocket.step, InlineWebSocket.throws] at hstep
      split at hstep
      · next rest hstack =>
        rw [← Option.some.inj hstep]
        have hflow := h.flowing_cons hstack rfl
        have hpop := hflow.popPlain hstack rfl
        exact (hpop.pushPlain .failed rfl trivial).dispatchPlain
          (.error .thrown) rfl
      · exact h.ret hstep
  | internal => exact h.internal hstep

-- ============================================================= every run

/-- In every state of an undisturbed run. -/
theorem inv_reaches
    (hs : (inlineSystem α).Reaches (fun s a => s.Undisturbed a) s) :
    Inv s := by
  apply System.Reaches.invariant _ _ hs
  · rintro s₀ rfl
    left
    refine ⟨rfl, rfl, fun _ => rfl, fun _ => rfl, List.nodup_nil, ?_, ?_⟩
    · intro f hf
      rw [List.mem_singleton.1 hf]
      exact trivial
    · intro d hd
      cases hd
  · intro s₁ a s₂ _ hinv hok hstep
    exact hinv.step hok hstep

end InlineWebSocket

open InlineWebSocket

/-- In an undisturbed run every message that the server sends while the
socket is open is passed to whoever was registered first when it was
dispatched, in the order they were sent and once, or waits in the buffer
with nobody registered; and every listener that was registered when a
dispatch began, and was not removed before its turn, gets its message
once. -/
theorem delivers {α : Type} {s : InlineWebSocket α}
    (hs : (inlineSystem α).Reaches (fun s a => s.Undisturbed a) s) :
    s.Delivers := by
  rcases inv_reaches hs with h | ⟨event, toProperty, rest, hstack, -, -, h⟩
  · refine ⟨?_, ?_, h.fair⟩
    · intro hrest
      have horder := h.order
      rw [hrest] at horder
      show _ ++ s.waiting = _
      rw [← horder]
      show _ = _ ++ (s.waiting ++ [])
      rw [List.append_nil]
    · rintro - (hlisteners | hassigned)
      · exact waiting_nil (h.listening hlisteners)
      · exact h.assigned hassigned
  · refine ⟨?_, ?_, h.fair⟩
    · intro hrest
      rw [hstack] at hrest
      cases hrest
    · intro hrest
      rw [hstack] at hrest
      cases hrest

/-- Two messages before anyone listens; the first listener adds a second
one while it gets the first of them, which removes itself from the second;
a property handler behind it, and an answer to a message in the middle of
its dispatch. -/
def exchange : List (SocketStep String) :=
  [.ret, .internal, .op (.wsSend "a"), .op (.wsSend "b"),
    .op (.addEventListener .message 1), .internal, .internal,
    .op (.addEventListener .message 2), .internal, .ret, .internal, .ret,
    .internal, .internal, .internal, .ret, .internal,
    .op (.removeEventListener .message 2), .ret, .internal, .internal,
    .op (.setProperty .message (some 3)), .op (.wsSend "c"), .internal,
    .op .send, .op (.wsSend "d"), .internal, .ret, .internal, .ret, .ret,
    .ret, .internal, .ret]

/-- The first listener has got all four in order. -/
theorem delivers_exchange :
    ∃ s, (inlineSystem String).run .constructed exchange = some s
      ∧ s.toFirst.map (·.data) = ["a", "b", "c", "d"] ∧ s.stack = []
      ∧ s.Delivers := by
  refine ⟨_, rfl, rfl, rfl, @delivers String _
    (System.Reaches.run exchange constructed_reaches ?_ rfl)⟩
  decide

/-- Two listeners, of which the first removes itself with the first
message. -/
def removesItself : List (SocketStep String) :=
  [.ret, .internal, .op (.addEventListener .message 1), .internal,
    .op (.addEventListener .message 2), .internal, .op (.wsSend "a"),
    .internal, .op (.removeEventListener .message 1), .ret, .internal]

/-- The loop passes over the second. -/
theorem skips_listener :
    ¬ ∀ s : InlineWebSocket String,
        (inlineSystem String).Reachable s → s.Delivers := by
  intro hall
  have h := hall _
    (System.Reachable.run removesItself constructed_reaches rfl)
  have hfair := h.fair _ (List.mem_singleton.2 rfl) (by decide)
  exact absurd (hfair 2 (by decide) (by decide)) (by decide)

end RivetKit.Common
