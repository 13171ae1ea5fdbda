/-
The raw WebSocket of an actor closes one way (`adapter_closes`), calls its
listeners fairly (`adapter_dispatches`), and brings messages to a listener
in order (`adapter_in_order`), whatever listeners and the socket below do
in the middle of its methods.

Most of what a step does touches none of the fields that closing is about
(`Quiet`): loops, calls of listeners and their returns. Six steps do, and
each has a lemma (`Stepped`). `Counted` ties the close events to the ready
state: while the socket is closing, a call of `ws.close` has not returned,
and its return is what raises the event, unless `_handleClose` has been
there first.

# Sections

  - what most steps do
  - closing: one step, every run
  - loops: one step, every run
  - messages to one listener
-/
import RivetKit.Manager.HonoWebSocket
import Mathlib.Data.List.Perm.Basic

namespace RivetKit.Manager

open Transition
open Js
open Common (ReadyState EventType CloseEvent)

namespace HonoWebSocket

variable {s s' : HonoWebSocket}

-- ==================================================== what most steps do

/-- Nothing has changed that closing is about. -/
structure Quiet (s s' : HonoWebSocket) : Prop where
  readyState : s'.readyState = s.readyState
  closeEvents : s'.closeEvents = s.closeEvents
  reported : s'.reported = s.reported
  toSocket : s'.toSocket = s.toSocket
  late : s'.late = s.late
  blobs : s'.blobs = s.blobs
  closesOn : closesOn s'.stack = closesOn s.stack

theorem closesOn_cons (f : Frame) (stack : List Frame) :
    closesOn (f :: stack) = closesOn [f] + closesOn stack := by
  unfold closesOn
  rw [List.countP_cons, List.countP_cons, List.countP_nil]
  omega

theorem beginLoop_quiet (event : Event) (toProperty : Bool)
    (s : HonoWebSocket) : Quiet s (s.beginLoop event toProperty) :=
  ⟨rfl, rfl, rfl, rfl, rfl, rfl,
    (closesOn_cons _ _).trans (Nat.zero_add _)⟩

theorem callProperty_quiet (event : Event) (s : HonoWebSocket) :
    Quiet s (s.callProperty event) := by
  unfold callProperty
  cases s.properties event.type with
  | none => exact ⟨rfl, rfl, rfl, rfl, rfl, rfl, rfl⟩
  | some _ =>
      exact ⟨rfl, rfl, rfl, rfl, rfl, rfl,
        (closesOn_cons _ _).trans (Nat.zero_add _)⟩

/-- A frame that is no `ws.close` is gone. -/
theorem pop_quiet {f : Frame} {rest : List Frame}
    (hstack : s.stack = f :: rest) (hf : closesOn [f] = 0) :
    Quiet s { s with stack := rest } := by
  refine ⟨rfl, rfl, rfl, rfl, rfl, rfl, ?_⟩
  rw [hstack, closesOn_cons, hf, Nat.zero_add]

theorem Quiet.trans {t : HonoWebSocket} (h : Quiet s t)
    (h' : Quiet t s') : Quiet s s' where
  readyState := h'.readyState.trans h.readyState
  closeEvents := h'.closeEvents.trans h.closeEvents
  reported := h'.reported.trans h.reported
  toSocket := h'.toSocket.trans h.toSocket
  late := h'.late.trans h.late
  blobs := h'.blobs.trans h.blobs
  closesOn := h'.closesOn.trans h.closesOn

theorem continueLoop_quiet {event : Event} {loop : Loop Nat}
    {toProperty : Bool} {rest : List Frame}
    (hstack : s.stack = .dispatch event loop toProperty :: rest) :
    Quiet s (s.continueLoop event loop toProperty rest) := by
  have hpop := pop_quiet hstack rfl
  unfold continueLoop
  cases (s.eventListeners event.type).next loop.index with
  | some next =>
      obtain ⟨l, i⟩ := next
      refine ⟨rfl, rfl, rfl, rfl, rfl, rfl, ?_⟩
      rw [← hpop.closesOn]
      show closesOn (_ :: _ :: rest) = closesOn rest
      rw [closesOn_cons, closesOn_cons (Frame.dispatch _ _ _)]
      exact (Nat.zero_add _).trans (Nat.zero_add _)
  | none =>
      have hended : Quiet s { s with
          stack := rest
          dispatched := s.dispatched ++ [⟨event, loop,
            (s.eventListeners event.type).elements⟩] } :=
        ⟨rfl, rfl, rfl, rfl, rfl, rfl, hpop.closesOn⟩
      cases toProperty with
      | true => exact hended.trans (callProperty_quiet event _)
      | false => exact hended

/-- The history of a frame is no other frame. -/
theorem closesOn_deleteIn (type : EventType) (l : Nat)
    (set : LiveSet Nat) (stack : List Frame) :
    closesOn (stack.map (deleteIn type l set)) = closesOn stack := by
  unfold closesOn
  rw [List.countP_map]
  apply List.countP_congr
  intro f _
  cases f with
  | dispatch event loop toProperty =>
      by_cases htype : event.type = type
      · simp [deleteIn, htype]
      · simp [deleteIn, htype]
  | listener => rfl
  | wsSend => rfl
  | wsClose code reason => rfl
  | forceClose code reason => rfl
  | blobSend => rfl

theorem removeEventListener_quiet (type : EventType) (l : Nat)
    (s : HonoWebSocket) : Quiet s (s.removeEventListener type l) :=
  ⟨rfl, rfl, rfl, rfl, rfl, rfl, closesOn_deleteIn type l _ s.stack⟩

theorem setProperty_quiet (type : EventType) (handler : Option Nat)
    (s : HonoWebSocket) : Quiet s (s.setProperty type handler) := by
  unfold setProperty
  split <;> exact ⟨rfl, rfl, rfl, rfl, rfl, rfl, rfl⟩

-- =============================================================== closing

/-- The close events of a state. -/
def Counted (s : HonoWebSocket) : Prop :=
  match s.readyState with
  | .connecting => False
  | .opened =>
      s.closeEvents = [] ∧ s.reported = 0 ∧ closesOn s.stack = 0
  | .closing =>
      s.closeEvents = [] ∧ s.reported = 0 ∧ closesOn s.stack = 1
  | .closed =>
      s.closeEvents.length + closesOn s.stack = 1 + s.reported
        ∧ s.reported ≤ 1 ∧ closesOn s.stack ≤ s.reported

/-- What one step does. -/
structure Stepped (s s' : HonoWebSocket) : Prop where
  inOrder : InOrder s s'
  settled : s.readyState = .closed → closesOn s.stack = 0 →
    closesOn s'.stack = 0
  counted : s.Counted → s'.Counted

/-- What closing is about is the same. -/
theorem Quiet.counted (h : Quiet s s') (hcounted : s.Counted) :
    s'.Counted := by
  unfold Counted at hcounted ⊢
  rw [h.readyState, h.closeEvents, h.reported, h.closesOn]
  exact hcounted

theorem Quiet.stepped (h : Quiet s s') : Stepped s s' where
  inOrder :=
    { readyState := Nat.le_of_eq (congrArg _ h.readyState.symm)
      toSocket := fun _ => h.toSocket
      late := fun _ _ => Nat.le_of_eq (by rw [h.late, h.blobs])
      closeEvents := fun _ _ => h.closeEvents }
  settled _ hclose := h.closesOn.trans hclose
  counted := h.counted

/-- A closed socket stays closed. -/
theorem InOrder.closed (h : InOrder s s') (hclosed : s.readyState = .closed) :
    s'.readyState = .closed := by
  have hle := h.readyState
  rw [hclosed] at hle
  cases hstate : s'.readyState <;> rw [hstate] at hle
  · exact absurd hle (by decide)
  · exact absurd hle (by decide)
  · exact absurd hle (by decide)

theorem InOrder.trans {t : HonoWebSocket} (h : InOrder s t)
    (h' : InOrder t s') (hsettled : s.readyState = .closed →
      closesOn s.stack = 0 → closesOn t.stack = 0) : InOrder s s' where
  readyState := Nat.le_trans h.readyState h'.readyState
  toSocket hlate :=
    (h'.toSocket (Nat.le_trans hlate h.readyState)).trans (h.toSocket hlate)
  late hlate bytes :=
    Nat.le_trans (h'.late (Nat.le_trans hlate h.readyState) bytes)
      (h.late hlate bytes)
  closeEvents hclosed hclose :=
    (h'.closeEvents (h.closed hclosed) (hsettled hclosed hclose)).trans
      (h.closeEvents hclosed hclose)

/-- The socket closes: behind `ws.close`, or in `_handleClose`. -/
theorem raiseClose_stepped {t : HonoWebSocket} (event : CloseEvent)
    (htoSocket : t.toSocket = s.toSocket) (hlate : t.late = s.late)
    (hblobs : t.blobs = s.blobs)
    (hnot : s.readyState = .closed → closesOn s.stack ≠ 0)
    (hcounted : s.Counted →
      t.closeEvents.length + 1 + closesOn t.stack = 1 + t.reported
        ∧ t.reported ≤ 1 ∧ closesOn t.stack ≤ t.reported) :
    Stepped s (t.raiseClose event) where
  inOrder :=
    { readyState := by
        show s.readyState.number ≤ 3
        cases s.readyState <;> decide
      toSocket := fun _ => htoSocket
      late := fun _ bytes => by
        show t.late.count bytes + t.blobs.count bytes ≤ _
        exact Nat.le_of_eq (by rw [hlate, hblobs])
      closeEvents := fun hclosed hclose =>
        absurd hclose (hnot hclosed) }
  settled hclosed hclose := absurd hclose (hnot hclosed)
  counted h := by
    obtain ⟨hlength, hreported, hclose⟩ := hcounted h
    show (t.closeEvents ++ [event]).length
        + closesOn (.dispatch _ _ _ :: t.stack) = 1 + t.reported
      ∧ t.reported ≤ 1
      ∧ closesOn (.dispatch _ _ _ :: t.stack) ≤ t.reported
    have hstack : ∀ loop toProperty,
        closesOn (.dispatch (.close event) loop toProperty :: t.stack)
          = closesOn t.stack :=
      fun _ _ => (closesOn_cons _ _).trans (Nat.zero_add _)
    rw [hstack, List.length_append, List.length_singleton]
    exact ⟨hlength, hreported, hclose⟩

/-- `ws.close`, which `close` called, has returned or thrown. -/
theorem closed_stepped {code : Nat} {reason : String} {rest : List Frame}
    (hstack : s.stack = .wsClose code reason :: rest)
    (event : CloseEvent) :
    Stepped s ({ s with stack := rest }.raiseClose event) := by
  have hcloses : closesOn s.stack = 1 + closesOn rest := by
    rw [hstack, closesOn_cons]
    rfl
  refine raiseClose_stepped event rfl rfl rfl (fun _ => by omega) ?_
  intro hcounted
  show s.closeEvents.length + 1 + closesOn rest = 1 + s.reported
    ∧ s.reported ≤ 1 ∧ closesOn rest ≤ s.reported
  unfold Counted at hcounted
  cases hstate : s.readyState with
  | connecting =>
      rw [hstate] at hcounted
      exact hcounted.elim
  | opened =>
      rw [hstate] at hcounted
      obtain ⟨_, _, hnone⟩ := hcounted
      omega
  | closing =>
      rw [hstate] at hcounted
      obtain ⟨hevents, _, hone⟩ := hcounted
      rw [hevents]
      simp only [List.length_nil]
      omega
  | closed =>
      rw [hstate] at hcounted
      obtain ⟨hlength, hle, hclose⟩ := hcounted
      omega

/-- `ws.close`, which `_handleClose` called, has returned. -/
theorem closeHandled_stepped {code : Nat} {reason : String}
    {rest : List Frame}
    (hstack : s.stack = .forceClose code reason :: rest) :
    Stepped s ({ s with stack := rest }.closeHandled code reason) := by
  have hpop := pop_quiet hstack rfl
  unfold closeHandled
  by_cases hclosed : s.readyState = .closed
  · rw [if_pos hclosed]
    exact hpop.stepped
  · rw [if_neg hclosed]
    refine raiseClose_stepped _ rfl rfl rfl (fun h => absurd h hclosed) ?_
    intro hcounted
    show s.closeEvents.length + 1 + closesOn rest
        = 1 + (s.reported + if s.readyState = .closing then 1 else 0)
      ∧ (s.reported + if s.readyState = .closing then 1 else 0) ≤ 1
      ∧ closesOn rest
        ≤ s.reported + if s.readyState = .closing then 1 else 0
    have hcloses : closesOn rest = closesOn s.stack := hpop.closesOn
    rw [hcloses]
    unfold Counted at hcounted
    cases hstate : s.readyState with
    | connecting =>
        rw [hstate] at hcounted
        exact hcounted.elim
    | opened =>
        rw [hstate] at hcounted
        obtain ⟨hevents, hreported, hnone⟩ := hcounted
        rw [hevents, hreported, hnone]
        decide
    | closing =>
        rw [hstate] at hcounted
        obtain ⟨hevents, hreported, hone⟩ := hcounted
        rw [hevents, hreported, hone]
        decide
    | closed => exact absurd hstate hclosed

/-- `close` calls `ws.close`. -/
theorem close_stepped (code : Nat) (reason : String) (s : HonoWebSocket) :
    Stepped s (s.close code reason) := by
  unfold close
  by_cases hlate : s.readyState = .closing ∨ s.readyState = .closed
  · rw [if_pos hlate]
    exact Quiet.stepped ⟨rfl, rfl, rfl, rfl, rfl, rfl, rfl⟩
  · rw [if_neg hlate]
    constructor
    · refine ⟨?_, fun _ => rfl, fun _ _ => Nat.le_refl _, fun _ _ => rfl⟩
      show s.readyState.number ≤ 2
      cases hstate : s.readyState with
      | connecting => decide
      | opened => decide
      | closing => exact absurd (Or.inl hstate) hlate
      | closed => exact absurd (Or.inr hstate) hlate
    · exact fun hclosed => absurd (Or.inr hclosed) hlate
    · intro hcounted
      show s.closeEvents = [] ∧ s.reported = 0
        ∧ closesOn (.wsClose code reason :: s.stack) = 1
      unfold Counted at hcounted
      cases hstate : s.readyState with
      | connecting =>
          rw [hstate] at hcounted
          exact hcounted.elim
      | opened =>
          rw [hstate] at hcounted
          obtain ⟨hevents, hreported, hnone⟩ := hcounted
          refine ⟨hevents, hreported, ?_⟩
          rw [closesOn_cons, hnone]
          rfl
      | closing => exact absurd (Or.inl hstate) hlate
      | closed => exact absurd (Or.inr hstate) hlate

/-- A socket that is open sends. -/
theorem opened_stepped {s' : HonoWebSocket} (hopen : s.readyState = .opened)
    (hstate : s'.readyState = s.readyState)
    (hevents : s'.closeEvents = s.closeEvents)
    (hreported : s'.reported = s.reported)
    (hcloses : closesOn s'.stack = closesOn s.stack) : Stepped s s' where
  inOrder :=
    { readyState := Nat.le_of_eq (congrArg _ hstate.symm)
      toSocket := fun hlate => by
        rw [hopen] at hlate
        exact absurd hlate (by decide)
      late := fun hlate => by
        rw [hopen] at hlate
        exact absurd hlate (by decide)
      closeEvents := fun _ _ => hevents }
  settled _ hclose := hcloses.trans hclose
  counted h := by
    unfold Counted at h ⊢
    rw [hstate, hevents, hreported, hcloses]
    exact h

/-- `send`. -/
theorem send_stepped (data : Outgoing) (s : HonoWebSocket) :
    Stepped s (s.send data) := by
  unfold send
  by_cases hopen : s.readyState = .opened
  · rw [if_neg (not_not_intro hopen)]
    cases data with
    | blob bytes => exact opened_stepped hopen rfl rfl rfl rfl
    | text _ =>
        exact opened_stepped hopen rfl rfl rfl
          ((closesOn_cons _ _).trans (Nat.zero_add _))
    | arrayBuffer _ =>
        exact opened_stepped hopen rfl rfl rfl
          ((closesOn_cons _ _).trans (Nat.zero_add _))
    | view _ _ _ =>
        exact opened_stepped hopen rfl rfl rfl
          ((closesOn_cons _ _).trans (Nat.zero_add _))
    | other _ =>
        exact opened_stepped hopen rfl rfl rfl
          ((closesOn_cons _ _).trans (Nat.zero_add _))
  · rw [if_pos hopen]
    exact Quiet.stepped ⟨rfl, rfl, rfl, rfl, rfl, rfl, rfl⟩

/-- A Blob less. -/
theorem count_eraseIdx {blobs : List (List UInt8)} {i : Nat}
    {bytes : List UInt8} (h : blobs[i]? = some bytes) (x : List UInt8) :
    [bytes].count x + (blobs.eraseIdx i).count x = blobs.count x := by
  obtain ⟨hlt, hbytes⟩ := List.getElem?_eq_some_iff.1 h
  rw [← List.count_append, ← hbytes]
  exact (List.getElem_cons_eraseIdx_perm hlt).count_eq x

/-- A Blob leaves its conversion, and is sent or not. -/
theorem blob_stepped {s' : HonoWebSocket} {i : Nat} {bytes : List UInt8}
    (hblob : s.blobs[i]? = some bytes)
    (hstate : s'.readyState = s.readyState)
    (hevents : s'.closeEvents = s.closeEvents)
    (hreported : s'.reported = s.reported)
    (hsent : s'.toSocket = s.toSocket)
    (hcloses : closesOn s'.stack = closesOn s.stack)
    (hblobs : s'.blobs = s.blobs.eraseIdx i)
    (hlate : s'.late = s.late ∨ s'.late = s.late ++ [bytes]) :
    Stepped s s' where
  inOrder :=
    { readyState := Nat.le_of_eq (congrArg _ hstate.symm)
      toSocket := fun _ => hsent
      late := fun _ x => by
        have herase := count_eraseIdx hblob x
        rw [hblobs]
        rcases hlate with hlate | hlate
        · rw [hlate]
          omega
        · rw [hlate, List.count_append]
          omega
      closeEvents := fun _ _ => hevents }
  settled _ hclose := hcloses.trans hclose
  counted h := by
    unfold Counted at h ⊢
    rw [hstate, hevents, hreported, hcloses]
    exact h

/-- A method. -/
theorem callMethod_stepped (m : Method) (s : HonoWebSocket) :
    Stepped s (s.callMethod m) := by
  cases m with
  | send data => exact send_stepped data s
  | close code reason => exact close_stepped _ _ s
  | addEventListener type l =>
      exact Quiet.stepped ⟨rfl, rfl, rfl, rfl, rfl, rfl, rfl⟩
  | removeEventListener type l =>
      exact (removeEventListener_quiet type l s).stepped
  | setProperty type handler => exact (setProperty_quiet type handler s).stepped
  | dispatchEvent type => exact (beginLoop_quiet _ _ s).stepped
  | handleMessage data =>
      have hquiet := beginLoop_quiet (.message data.messageData) true
        { s with messages := s.messages ++ [data.messageData] }
      exact Quiet.stepped ⟨rfl, rfl, rfl, rfl, rfl, rfl, hquiet.closesOn⟩
  | handleClose code reason =>
      exact Quiet.stepped ⟨rfl, rfl, rfl, rfl, rfl, rfl,
        (closesOn_cons _ _).trans (Nat.zero_add _)⟩
  | handleError => exact (beginLoop_quiet _ _ s).stepped

/-- What returns is taken off the stack; behind `ws.close` the close event
is raised. -/
theorem ret_cases (h : s.ret = some s') : ∃ f rest, s.stack = f :: rest
    ∧ messageLoop f = none
    ∧ (closesOn [f] = 0 ∧ s' = { s with stack := rest }
      ∨ (∃ code reason, f = .wsClose code reason
        ∧ s' = { s with stack := rest }.raiseClose
          ⟨code, reason, decide (code = 1000)⟩)
      ∨ ∃ code reason, f = .forceClose code reason
        ∧ s' = { s with stack := rest }.closeHandled code reason) := by
  unfold ret at h
  cases hstack : s.stack with
  | nil =>
      rw [hstack] at h
      cases h
  | cons f rest =>
      rw [hstack] at h
      refine ⟨f, rest, rfl, ?_⟩
      cases f with
      | dispatch event loop toProperty => cases h
      | listener => exact ⟨rfl, .inl ⟨rfl, (Option.some.inj h).symm⟩⟩
      | wsSend => exact ⟨rfl, .inl ⟨rfl, (Option.some.inj h).symm⟩⟩
      | blobSend => exact ⟨rfl, .inl ⟨rfl, (Option.some.inj h).symm⟩⟩
      | wsClose code reason =>
          exact ⟨rfl,
            .inr (.inl ⟨code, reason, rfl, (Option.some.inj h).symm⟩)⟩
      | forceClose code reason =>
          exact ⟨rfl,
            .inr (.inr ⟨code, reason, rfl, (Option.some.inj h).symm⟩)⟩

/-- What throws is taken off the stack; `send` raises an error event, and
`close` a close event. -/
theorem throws_cases (h : s.throws = some s') : ∃ f rest, s.stack = f :: rest
    ∧ messageLoop f = none
    ∧ (closesOn [f] = 0
        ∧ (s' = { s with stack := rest }
          ∨ s' = { s with stack := rest }.fireEvent (.error .send)
          ∨ s' = { s with stack := rest, rejections := s.rejections + 1 })
      ∨ ∃ code reason, f = .wsClose code reason
        ∧ s' = { s with stack := rest }.raiseClose
          ⟨1006, "Abnormal closure", false⟩) := by
  unfold throws at h
  cases hstack : s.stack with
  | nil =>
      rw [hstack] at h
      cases h
  | cons f rest =>
      rw [hstack] at h
      refine ⟨f, rest, rfl, ?_⟩
      cases f with
      | dispatch event loop toProperty => cases h
      | listener => exact ⟨rfl, .inl ⟨rfl, .inl (Option.some.inj h).symm⟩⟩
      | forceClose code reason =>
          exact ⟨rfl, .inl ⟨rfl, .inl (Option.some.inj h).symm⟩⟩
      | wsSend =>
          exact ⟨rfl, .inl ⟨rfl, .inr (.inl (Option.some.inj h).symm)⟩⟩
      | blobSend =>
          exact ⟨rfl, .inl ⟨rfl, .inr (.inr (Option.some.inj h).symm)⟩⟩
      | wsClose code reason =>
          exact ⟨rfl, .inr ⟨code, reason, rfl, (Option.some.inj h).symm⟩⟩

/-- A return. -/
theorem ret_stepped (h : s.ret = some s') : Stepped s s' := by
  obtain ⟨f, rest, hstack, _, ⟨hf, rfl⟩ | ⟨code, reason, rfl, rfl⟩
    | ⟨code, reason, rfl, rfl⟩⟩ := ret_cases h
  · exact (pop_quiet hstack hf).stepped
  · exact closed_stepped hstack _
  · exact closeHandled_stepped hstack

/-- A throw. -/
theorem throws_stepped (h : s.throws = some s') : Stepped s s' := by
  obtain ⟨f, rest, hstack, _, ⟨hf, rfl | rfl | rfl⟩
    | ⟨code, reason, rfl, rfl⟩⟩ := throws_cases h
  · exact (pop_quiet hstack hf).stepped
  · exact ((pop_quiet hstack hf).trans (beginLoop_quiet _ _ _)).stepped
  · exact Quiet.stepped
      ⟨rfl, rfl, rfl, rfl, rfl, rfl, (pop_quiet hstack hf).closesOn⟩
  · exact closed_stepped hstack _

/-- A step. -/
theorem step_stepped {a : Step} (h : s.step a = some s') :
    Stepped s s' := by
  cases a with
  | call m =>
      simp only [step] at h
      split at h
      · injection h with h
        exact h ▸ callMethod_stepped m s
      · cases h
  | ret => exact ret_stepped h
  | throws => exact throws_stepped h
  | internal =>
      simp only [step, internal] at h
      split at h
      · next event loop toProperty rest hstack =>
        injection h with h
        exact h ▸ (continueLoop_quiet hstack).stepped
      · cases h
  | timer =>
      simp only [step, timer] at h
      split at h
      · injection h with h
        have hquiet := beginLoop_quiet .opened true s
        exact h ▸ Quiet.stepped
          ⟨rfl, rfl, rfl, rfl, rfl, rfl, hquiet.closesOn⟩
      · cases h
  | converted i =>
      simp only [step, converted] at h
      split at h
      · next bytes hstack hblob =>
        injection h with h
        refine h ▸ blob_stepped hblob rfl rfl rfl rfl ?_ rfl (Or.inr rfl)
        rw [hstack]
        rfl
      · cases h
  | rejected i =>
      simp only [step, rejected] at h
      split at h
      · next bytes hstack hblob =>
        injection h with h
        exact h ▸ blob_stepped hblob rfl rfl rfl rfl rfl rfl (Or.inl rfl)
      · cases h
  | caught =>
      simp only [step, caught] at h
      split at h
      · next n hstack _ =>
        injection h with h
        have hquiet := beginLoop_quiet (.error .blob) true s
        exact h ▸ Quiet.stepped
          ⟨rfl, rfl, rfl, rfl, rfl, rfl, hquiet.closesOn⟩
      · cases h

/-- Over a run. -/
theorem run_inOrder {as : List Step} :
    ∀ {s s' : HonoWebSocket}, honoSystem.run s as = some s' →
      InOrder s s' ∧ (s.readyState = .closed → closesOn s.stack = 0 →
        closesOn s'.stack = 0) := by
  induction as with
  | nil =>
      intro s s' h
      injection h with h
      subst h
      have hquiet : Quiet s s := ⟨rfl, rfl, rfl, rfl, rfl, rfl, rfl⟩
      exact ⟨hquiet.stepped.inOrder, fun _ => id⟩
  | cons a as ih =>
      intro s s' h
      obtain ⟨t, hstep, hrun⟩ := System.run_cons h
      have hs := step_stepped hstep
      obtain ⟨ht, hsettled⟩ := ih hrun
      refine ⟨hs.inOrder.trans ht hs.settled, ?_⟩
      intro hclosed hclose
      exact hsettled (hs.inOrder.closed hclosed)
        (hs.settled hclosed hclose)

/-- In every state. -/
theorem reachable_counted (h : honoSystem.Reachable s) : s.Counted := by
  refine h.invariant ?_ ?_
  · rintro s rfl
    exact ⟨rfl, rfl, rfl⟩
  · intro s a s' _ hcounted _ hstep
    exact (step_stepped hstep).counted hcounted

/-- The close events, once no call of `close` is in the middle. -/
theorem Counted.closesOnce (h : s.Counted) : s.ClosesOnce := by
  intro hclose
  unfold Counted at h
  cases hstate : s.readyState with
  | connecting =>
      rw [hstate] at h
      exact h.elim
  | opened =>
      rw [hstate] at h
      obtain ⟨hevents, hreported, _⟩ := h
      rw [hevents, hreported]
      decide
  | closing =>
      rw [hstate] at h
      obtain ⟨hevents, hreported, _⟩ := h
      rw [hevents, hreported]
      decide
  | closed =>
      rw [hstate] at h
      obtain ⟨hlength, hle, _⟩ := h
      rw [if_pos rfl]
      omega

/-- In every run the ready state of a raw WebSocket goes one way, `send`
passes nothing on from closing on, and close events are raised once, or
twice if the socket reported its close within the call of `ws.close`. -/
theorem adapter_closes {s s' : HonoWebSocket} {as : List Step}
    (hreachable : honoSystem.Reachable s)
    (hrun : honoSystem.run s as = some s') :
    InOrder s s' ∧ s'.ClosesOnce := by
  have hcounted := reachable_counted (hreachable.run as hrun)
  exact ⟨(run_inOrder hrun).1, hcounted.closesOnce⟩

/-- A socket that is closed while a Blob is being converted, and reports
its close from within `ws.close`. -/
def reportedClose : List Step :=
  [.call (.send (.blob [7])), .call (.close none none),
    .call (.handleClose 1000 ""), .ret, .internal, .ret, .internal,
    .call (.send (.text "late")), .converted 0, .ret]

theorem adapter_closes_reported :
    ∃ s', honoSystem.run {} reportedClose = some s'
      ∧ InOrder {} s' ∧ s'.ClosesOnce ∧ s'.closeEvents.length = 2
      ∧ s'.toSocket = [] ∧ s'.late = [[7]] := by
  have hreachable : honoSystem.Reachable {} := .init rfl
  have h := @adapter_closes _ _ reportedClose hreachable rfl
  exact ⟨_, rfl, h.1, h.2, rfl, rfl, rfl⟩

-- ================================================================= loops

/-- What is to hold of the loops. -/
structure Loops (s : HonoWebSocket) : Prop where
  running : ∀ event loop toProperty,
    .dispatch event loop toProperty ∈ s.stack →
      Follows (s.eventListeners event.type) loop
  ended : ∀ e ∈ s.dispatched, e.loop.Fair e.members

/-- The listeners are the same, and the loops but for new ones. -/
structure Frames (s s' : HonoWebSocket) : Prop where
  eventListeners : s'.eventListeners = s.eventListeners
  dispatched : s'.dispatched = s.dispatched
  stack : ∀ event loop toProperty,
    .dispatch event loop toProperty ∈ s'.stack →
      .dispatch event loop toProperty ∈ s.stack
        ∨ loop = (s.eventListeners event.type).loop

theorem Loops.frames (hloops : Loops s) (h : Frames s s') : Loops s' where
  running event loop toProperty hmem := by
    rw [h.eventListeners]
    rcases h.stack event loop toProperty hmem with hold | hnew
    · exact hloops.running event loop toProperty hold
    · exact hnew ▸ follows_loop _
  ended := h.dispatched ▸ hloops.ended

theorem Frames.trans {t : HonoWebSocket} (h : Frames s t)
    (h' : Frames t s') : Frames s s' where
  eventListeners := h'.eventListeners.trans h.eventListeners
  dispatched := h'.dispatched.trans h.dispatched
  stack event loop toProperty hmem := by
    rcases h'.stack event loop toProperty hmem with hold | hnew
    · exact h.stack event loop toProperty hold
    · exact Or.inr (h.eventListeners ▸ hnew)

/-- The stack is the same. -/
theorem frames_of_stack (hsets : s'.eventListeners = s.eventListeners)
    (hended : s'.dispatched = s.dispatched) (hstack : s'.stack = s.stack) :
    Frames s s' :=
  ⟨hsets, hended, fun _ _ _ h => Or.inl (hstack ▸ h)⟩

/-- A frame less. -/
theorem frames_of_pop {f : Frame} (hsets : s'.eventListeners = s.eventListeners)
    (hended : s'.dispatched = s.dispatched)
    (hstack : s.stack = f :: s'.stack) : Frames s s' :=
  ⟨hsets, hended, fun _ _ _ h =>
    Or.inl (hstack ▸ List.mem_cons_of_mem f h)⟩

/-- A call of others on top. -/
theorem frames_of_push {f : Frame}
    (hsets : s'.eventListeners = s.eventListeners)
    (hended : s'.dispatched = s.dispatched)
    (hstack : s'.stack = f :: s.stack) (hf : othersOnTop [f] = true) :
    Frames s s' := by
  refine ⟨hsets, hended, ?_⟩
  intro event loop toProperty h
  rw [hstack] at h
  rcases List.mem_cons.1 h with htop | hold
  · subst htop
    cases hf
  · exact Or.inl hold

theorem beginLoop_frames (event : Event) (toProperty : Bool)
    (s : HonoWebSocket) : Frames s (s.beginLoop event toProperty) := by
  refine ⟨rfl, rfl, ?_⟩
  intro event' loop toProperty' h
  rcases List.mem_cons.1 h with htop | hold
  · injection htop with hevent hloop _
    right
    rw [hevent, hloop]
  · exact Or.inl hold

theorem callProperty_frames (event : Event) (s : HonoWebSocket) :
    Frames s (s.callProperty event) := by
  unfold callProperty
  cases s.properties event.type with
  | none => exact frames_of_stack rfl rfl rfl
  | some _ => exact frames_of_push rfl rfl rfl rfl

theorem raiseClose_frames (event : CloseEvent) (s : HonoWebSocket) :
    Frames s (s.raiseClose event) := by
  have h := beginLoop_frames (.close event) true
    { s with
      readyState := .closed
      closeEvents := s.closeEvents ++ [event] }
  exact ⟨h.eventListeners, h.dispatched, h.stack⟩

theorem closeHandled_frames (code : Nat) (reason : String)
    (s : HonoWebSocket) : Frames s (s.closeHandled code reason) := by
  unfold closeHandled
  split
  · exact frames_of_stack rfl rfl rfl
  · have h := raiseClose_frames ⟨code, reason, decide (code = 1000)⟩
      { s with reported := s.reported
          + if s.readyState = .closing then 1 else 0 }
    exact ⟨h.eventListeners, h.dispatched, h.stack⟩

theorem send_frames (data : Outgoing) (s : HonoWebSocket) :
    Frames s (s.send data) := by
  unfold send
  by_cases hopen : s.readyState ≠ .opened
  · rw [if_pos hopen]
    exact frames_of_stack rfl rfl rfl
  · rw [if_neg hopen]
    have hpush : ∀ payload, Frames s { s with
        stack := .wsSend :: s.stack
        toSocket := s.toSocket ++ [payload] } :=
      fun _ => frames_of_push (f := .wsSend) rfl rfl rfl rfl
    cases data with
    | blob bytes => exact frames_of_stack rfl rfl rfl
    | text _ => exact hpush _
    | arrayBuffer _ => exact hpush _
    | view _ _ _ => exact hpush _
    | other _ => exact hpush _

theorem close_frames (code : Nat) (reason : String) (s : HonoWebSocket) :
    Frames s (s.close code reason) := by
  unfold close
  split
  · exact frames_of_stack rfl rfl rfl
  · exact frames_of_push (f := .wsClose code reason) rfl rfl rfl rfl

theorem setProperty_frames (type : EventType) (handler : Option Nat)
    (s : HonoWebSocket) : Frames s (s.setProperty type handler) := by
  unfold setProperty
  split <;> exact frames_of_stack rfl rfl rfl

/-- A loop goes on: it calls the next listener, or has ended. -/
theorem continueLoop_loops {event : Event} {loop : Loop Nat}
    {toProperty : Bool} {rest : List Frame}
    (hstack : s.stack = .dispatch event loop toProperty :: rest)
    (h : Loops s) : Loops (s.continueLoop event loop toProperty rest) := by
  have hfollows := h.running event loop toProperty
    (hstack ▸ List.mem_cons_self)
  have hrest : ∀ event' loop' toProperty',
      .dispatch event' loop' toProperty' ∈ rest →
        Follows (s.eventListeners event'.type) loop' := by
    intro event' loop' toProperty' hmem
    apply h.running event' loop' toProperty'
    rw [hstack]
    exact List.mem_cons_of_mem _ hmem
  unfold continueLoop
  cases hnext : (s.eventListeners event.type).next loop.index with
  | some next =>
      obtain ⟨l, i⟩ := next
      refine ⟨?_, h.ended⟩
      intro event' loop' toProperty' hmem
      rcases List.mem_cons.1 hmem with htop | hmem
      · cases htop
      rcases List.mem_cons.1 hmem with hloop | hmem
      · injection hloop with hevent hloop _
        rw [hevent, hloop]
        exact hfollows.call hnext
      · exact hrest event' loop' toProperty' hmem
  | none =>
      have hended : Loops { s with
          stack := rest
          dispatched := s.dispatched ++ [⟨event, loop,
            (s.eventListeners event.type).elements⟩] } := by
        refine ⟨hrest, ?_⟩
        intro e he
        rcases List.mem_append.1 he with hold | hnew
        · exact h.ended e hold
        · rw [List.mem_singleton.1 hnew]
          exact hfollows.fair hnext
      cases toProperty with
      | true => exact hended.frames (callProperty_frames event _)
      | false => exact hended

/-- A listener is added. -/
theorem addEventListener_loops (type : EventType) (l : Nat)
    (h : Loops s) : Loops (s.addEventListener type l) where
  running event loop toProperty hmem := by
    have hfollows := h.running event loop toProperty hmem
    show Follows (if event.type = type then _ else _) loop
    split
    · exact hfollows.add l
    · exact hfollows
  ended := h.ended

theorem deleteIn_dispatch (type : EventType) (l : Nat) (set : LiveSet Nat)
    (event : Event) (loop : Loop Nat) (toProperty : Bool) :
    deleteIn type l set (.dispatch event loop toProperty)
      = if event.type = type then
          .dispatch event (loop.delete l set) toProperty
        else .dispatch event loop toProperty := rfl

/-- A listener is removed. -/
theorem removeEventListener_loops (type : EventType) (l : Nat)
    (h : Loops s) : Loops (s.removeEventListener type l) where
  running event loop toProperty hmem := by
    obtain ⟨f, hf, hdelete⟩ := List.mem_map.1 hmem
    cases f with
    | dispatch event' loop' toProperty' =>
        have hfollows := h.running event' loop' toProperty' hf
        rw [deleteIn_dispatch] at hdelete
        by_cases htype : event'.type = type
        · rw [if_pos htype] at hdelete
          injection hdelete with hevent hloop _
          show Follows (if event.type = type then _ else _) loop
          rw [← hevent, ← hloop, if_pos htype, ← htype]
          exact hfollows.delete l
        · rw [if_neg htype] at hdelete
          injection hdelete with hevent hloop _
          show Follows (if event.type = type then _ else _) loop
          rw [← hevent, ← hloop, if_neg htype]
          exact hfollows
    | listener => cases hdelete
    | wsSend => cases hdelete
    | wsClose code reason => cases hdelete
    | forceClose code reason => cases hdelete
    | blobSend => cases hdelete
  ended := h.ended

/-- A method. -/
theorem callMethod_loops (m : Method) (h : Loops s) :
    Loops (s.callMethod m) := by
  cases m with
  | send data => exact h.frames (send_frames data s)
  | close code reason => exact h.frames (close_frames _ _ s)
  | addEventListener type l => exact addEventListener_loops type l h
  | removeEventListener type l => exact removeEventListener_loops type l h
  | setProperty type handler =>
      exact h.frames (setProperty_frames type handler s)
  | dispatchEvent type => exact h.frames (beginLoop_frames _ _ s)
  | handleMessage data =>
      have hframes := beginLoop_frames (.message data.messageData) true
        { s with messages := s.messages ++ [data.messageData] }
      exact h.frames
        ⟨hframes.eventListeners, hframes.dispatched, hframes.stack⟩
  | handleClose code reason =>
      exact h.frames
        (frames_of_push (f := .forceClose code reason) rfl rfl rfl rfl)
  | handleError => exact h.frames (beginLoop_frames _ _ s)

/-- A return. -/
theorem ret_loops (h : Loops s) (hret : s.ret = some s') : Loops s' := by
  obtain ⟨f, rest, hstack, _, hs⟩ := ret_cases hret
  have hpop : Frames s { s with stack := rest } := frames_of_pop rfl rfl hstack
  obtain ⟨_, rfl⟩ | ⟨code, reason, _, rfl⟩ | ⟨code, reason, _, rfl⟩ := hs
  · exact h.frames hpop
  · exact h.frames (hpop.trans (raiseClose_frames _ _))
  · exact h.frames (hpop.trans (closeHandled_frames _ _ _))

/-- A throw. -/
theorem throws_loops (h : Loops s) (hthrows : s.throws = some s') :
    Loops s' := by
  obtain ⟨f, rest, hstack, _, hs⟩ := throws_cases hthrows
  have hpop : Frames s { s with stack := rest } := frames_of_pop rfl rfl hstack
  obtain ⟨_, rfl | rfl | rfl⟩ | ⟨code, reason, _, rfl⟩ := hs
  · exact h.frames hpop
  · exact h.frames (hpop.trans (beginLoop_frames _ _ _))
  · exact h.frames (frames_of_pop rfl rfl hstack)
  · exact h.frames (hpop.trans (raiseClose_frames _ _))

/-- A step. -/
theorem step_loops {a : Step} (h : Loops s) (hstep : s.step a = some s') :
    Loops s' := by
  cases a with
  | call m =>
      simp only [step] at hstep
      split at hstep
      · injection hstep with hstep
        exact hstep ▸ callMethod_loops m h
      · cases hstep
  | ret => exact ret_loops h hstep
  | throws => exact throws_loops h hstep
  | internal =>
      simp only [step, internal] at hstep
      split at hstep
      · next event loop toProperty rest hstack =>
        injection hstep with hstep
        exact hstep ▸ continueLoop_loops hstack h
      · cases hstep
  | timer =>
      simp only [step, timer] at hstep
      split at hstep
      · injection hstep with hstep
        have hframes := beginLoop_frames .opened true s
        exact hstep ▸ h.frames
          ⟨hframes.eventListeners, hframes.dispatched, hframes.stack⟩
      · cases hstep
  | converted i =>
      simp only [step, converted] at hstep
      split at hstep
      · next bytes hstack _ =>
        injection hstep with hstep
        refine hstep ▸ h.frames (frames_of_push (f := .blobSend)
          rfl rfl ?_ rfl)
        rw [hstack]
      · cases hstep
  | rejected i =>
      simp only [step, rejected] at hstep
      split at hstep
      · injection hstep with hstep
        exact hstep ▸ h.frames (frames_of_stack rfl rfl rfl)
      · cases hstep
  | caught =>
      simp only [step, caught] at hstep
      split at hstep
      · injection hstep with hstep
        have hframes := beginLoop_frames (.error .blob) true s
        exact hstep ▸ h.frames
          ⟨hframes.eventListeners, hframes.dispatched, hframes.stack⟩
      · cases hstep

/-- In every state. -/
theorem reachable_loops (h : honoSystem.Reachable s) : Loops s := by
  refine h.invariant ?_ ?_
  · rintro s rfl
    refine ⟨fun _ _ _ hmem => ?_, fun e he => ?_⟩
    · cases hmem
    · cases he
  · intro s a s' _ hloops _ hstep
    exact step_loops hloops hstep

/-- Every dispatch of an event that has ended was fair: the listeners that
were registered when it began and stayed have been called once, in the
order of their registration; those that are registered at its end have been
called; and nobody more often than they were removed, and once if they are
still there. -/
theorem adapter_dispatches {s : HonoWebSocket}
    (hreachable : honoSystem.Reachable s) :
    ∀ e ∈ s.dispatched, e.loop.Fair e.members :=
  (reachable_loops hreachable).ended

/-- Of three listeners the first removes the second and itself, and adds
itself again; it is called once more, behind the third. -/
def removingListener : List Step :=
  [.call (.addEventListener .message 1), .call (.addEventListener .message 2),
    .call (.addEventListener .message 3), .call (.handleMessage (.text "a")),
    .internal, .call (.removeEventListener .message 2),
    .call (.removeEventListener .message 1),
    .call (.addEventListener .message 1), .ret, .internal, .ret,
    .internal, .ret, .internal]

theorem adapter_dispatches_removing :
    ∃ s', honoSystem.run {} removingListener = some s'
      ∧ (∀ e ∈ s'.dispatched, e.loop.Fair e.members)
      ∧ s'.dispatched.map (·.loop.called) = [[1, 3, 1]] := by
  have hreachable : honoSystem.Reachable {} := .init rfl
  exact ⟨_, rfl, adapter_dispatches (hreachable.run removingListener rfl),
    rfl⟩

-- ============================================== messages to one listener

/-- Nothing has changed that messages are about. -/
structure Mute (s s' : HonoWebSocket) : Prop where
  eventListeners : s'.eventListeners = s.eventListeners
  messages : s'.messages = s.messages
  heard : s'.heard = s.heard
  loops : messageLoops s'.stack = messageLoops s.stack

theorem Mute.trans {t : HonoWebSocket} (h : Mute s t) (h' : Mute t s') :
    Mute s s' where
  eventListeners := h'.eventListeners.trans h.eventListeners
  messages := h'.messages.trans h.messages
  heard := h'.heard.trans h.heard
  loops := h'.loops.trans h.loops

theorem messageLoops_cons {f : Frame} (hf : messageLoop f = none)
    (stack : List Frame) :
    messageLoops (f :: stack) = messageLoops stack :=
  List.filterMap_cons_none hf

/-- A frame of no message is gone. -/
theorem pop_mute {f : Frame} {rest : List Frame}
    (hstack : s.stack = f :: rest) (hf : messageLoop f = none) :
    Mute s { s with stack := rest } := by
  refine ⟨rfl, rfl, rfl, ?_⟩
  rw [hstack, messageLoops_cons hf]

theorem beginLoop_mute {event : Event} (hevent : hears 0 event = [])
    (toProperty : Bool) (s : HonoWebSocket) :
    Mute s (s.beginLoop event toProperty) := by
  refine ⟨rfl, rfl, rfl, messageLoops_cons ?_ _⟩
  cases event with
  | message data => cases hevent
  | opened => rfl
  | close event => rfl
  | error cause => rfl
  | custom type => rfl

theorem callProperty_mute (event : Event) (s : HonoWebSocket) :
    Mute s (s.callProperty event) := by
  unfold callProperty
  cases s.properties event.type with
  | none => exact ⟨rfl, rfl, rfl, rfl⟩
  | some _ => exact ⟨rfl, rfl, rfl, messageLoops_cons rfl _⟩

theorem raiseClose_mute (event : CloseEvent) (s : HonoWebSocket) :
    Mute s (s.raiseClose event) :=
  ⟨rfl, rfl, rfl, messageLoops_cons rfl _⟩

theorem closeHandled_mute (code : Nat) (reason : String)
    (s : HonoWebSocket) : Mute s (s.closeHandled code reason) := by
  unfold closeHandled
  split
  · exact ⟨rfl, rfl, rfl, rfl⟩
  · exact ⟨rfl, rfl, rfl, messageLoops_cons rfl _⟩

theorem send_mute (data : Outgoing) (s : HonoWebSocket) :
    Mute s (s.send data) := by
  unfold send
  by_cases hopen : s.readyState ≠ .opened
  · rw [if_pos hopen]
    exact ⟨rfl, rfl, rfl, rfl⟩
  · rw [if_neg hopen]
    cases data with
    | blob bytes => exact ⟨rfl, rfl, rfl, rfl⟩
    | text _ => exact ⟨rfl, rfl, rfl, messageLoops_cons rfl _⟩
    | arrayBuffer _ => exact ⟨rfl, rfl, rfl, messageLoops_cons rfl _⟩
    | view _ _ _ => exact ⟨rfl, rfl, rfl, messageLoops_cons rfl _⟩
    | other _ => exact ⟨rfl, rfl, rfl, messageLoops_cons rfl _⟩

theorem close_mute (code : Nat) (reason : String) (s : HonoWebSocket) :
    Mute s (s.close code reason) := by
  unfold close
  split
  · exact ⟨rfl, rfl, rfl, rfl⟩
  · exact ⟨rfl, rfl, rfl, messageLoops_cons rfl _⟩

theorem setProperty_mute (type : EventType) (handler : Option Nat)
    (s : HonoWebSocket) : Mute s (s.setProperty type handler) := by
  unfold setProperty
  split <;> exact ⟨rfl, rfl, rfl, rfl⟩

theorem ret_mute (h : s.ret = some s') : Mute s s' := by
  obtain ⟨f, rest, hstack, hf, hs⟩ := ret_cases h
  have hpop := pop_mute hstack hf
  obtain ⟨_, rfl⟩ | ⟨code, reason, _, rfl⟩ | ⟨code, reason, _, rfl⟩ := hs
  · exact hpop
  · exact hpop.trans (raiseClose_mute _ _)
  · exact hpop.trans (closeHandled_mute _ _ _)

theorem throws_mute (h : s.throws = some s') : Mute s s' := by
  obtain ⟨f, rest, hstack, hf, hs⟩ := throws_cases h
  have hpop := pop_mute hstack hf
  obtain ⟨_, rfl | rfl | rfl⟩ | ⟨code, reason, _, rfl⟩ := hs
  · exact hpop
  · exact hpop.trans (beginLoop_mute rfl _ _)
  · exact ⟨rfl, rfl, rfl, hpop.loops⟩
  · exact hpop.trans (raiseClose_mute _ _)

/-- What a listener has heard behind `before`, of the messages from the
`n`th on: all, or all but the last, which is being dispatched. -/
structure Hears (l n : Nat) (before : List Payload) (s : HonoWebSocket) :
    Prop where
  listens : s.Listens l
  heard : (messageLoops s.stack = [] ∧ n ≤ s.messages.length
      ∧ s.heardBy l = before ++ s.messages.drop n)
    ∨ ∃ ms data loop, messageLoops s.stack = [(data, loop)]
        ∧ s.messages = ms ++ [data] ∧ n ≤ ms.length
        ∧ l ∈ loop.registered ∧ l ∉ loop.deleted
        ∧ s.heardBy l = before
            ++ (if l ∈ loop.called then ms ++ [data] else ms).drop n

variable {l n : Nat} {before : List Payload}

theorem Hears.mute (h : Hears l n before s) (hmute : Mute s s') :
    Hears l n before s' := by
  have hheardBy : s'.heardBy l = s.heardBy l := by
    unfold heardBy
    rw [hmute.heard]
  constructor
  · unfold Listens
    rw [hmute.eventListeners]
    exact h.listens
  · rw [hmute.loops, hmute.messages, hheardBy]
    exact h.heard

/-- A message arrives while no other is being dispatched. -/
theorem Hears.handleMessage (h : Hears l n before s) (data : Incoming)
    (hquiet : s.QuietMessages) :
    Hears l n before (s.handleMessage data) := by
  refine ⟨h.listens, Or.inr ?_⟩
  rcases h.heard with ⟨_, hle, hheard⟩ | ⟨_, _, _, hloops, _⟩
  · refine ⟨s.messages, data.messageData,
      (s.eventListeners .message).loop, ?_, rfl, hle, h.listens,
      List.not_mem_nil, hheard⟩
    show _ :: messageLoops s.stack = _
    rw [hquiet]
    rfl
  · rw [hquiet] at hloops
    cases hloops

/-- A listener is added. -/
theorem Hears.addEventListener (h : Hears l n before s) (type : EventType)
    (l' : Nat) : Hears l n before (s.addEventListener type l') := by
  refine ⟨?_, h.heard⟩
  show l ∈ (if EventType.message = type then _ else _ : LiveSet Nat).elements
  split
  · exact LiveSet.mem_elements_add.2 (Or.inl h.listens)
  · exact h.listens

/-- The loops of messages, where a listener is removed. -/
theorem messageLoops_deleteIn (type : EventType) (l' : Nat)
    (set : LiveSet Nat) (stack : List Frame) :
    messageLoops (stack.map (deleteIn type l' set))
      = (messageLoops stack).map fun x =>
          (x.1, if type = .message then x.2.delete l' set else x.2) := by
  unfold messageLoops
  rw [List.filterMap_map, List.map_filterMap]
  apply List.filterMap_congr
  intro f _
  cases f with
  | dispatch event loop toProperty =>
      show messageLoop (deleteIn type l' set _) = _
      rw [deleteIn_dispatch]
      cases event with
      | message data =>
          by_cases htype : type = .message
          · subst htype
            rfl
          · rw [if_neg (fun h => htype h.symm)]
            simp [messageLoop, htype]
      | opened => split <;> rfl
      | close event => split <;> rfl
      | error cause => split <;> rfl
      | custom type' => split <;> rfl
  | listener => rfl
  | wsSend => rfl
  | wsClose code reason => rfl
  | forceClose code reason => rfl
  | blobSend => rfl

/-- Another listener is removed. -/
theorem Hears.removeEventListener (h : Hears l n before s)
    {type : EventType} {l' : Nat} (hother : type = .message → l' ≠ l) :
    Hears l n before (s.removeEventListener type l') := by
  refine ⟨?_, ?_⟩
  · show l ∈ (if EventType.message = type then _ else _ :
      LiveSet Nat).elements
    split
    · next htype =>
      exact LiveSet.mem_elements_delete.2
        ⟨h.listens, Ne.symm (hother htype.symm)⟩
    · exact h.listens
  · have hloops := messageLoops_deleteIn type l' (s.eventListeners type)
      s.stack
    rcases h.heard with ⟨hnone, hle, hheard⟩
      | ⟨ms, data, loop, hone, hmessages, hle, hregistered, hdeleted,
        hheard⟩
    · left
      rw [hnone] at hloops
      exact ⟨hloops, hle, hheard⟩
    · right
      rw [hone, List.map_singleton] at hloops
      by_cases htype : type = .message
      · rw [if_pos htype] at hloops
        refine ⟨ms, data, _, hloops, hmessages, hle, ?_, ?_, ?_⟩
        · rw [Loop.registered_delete]
          exact hregistered
        · exact Loop.not_mem_deleted hdeleted (Ne.symm (hother htype))
        · rw [Loop.called_delete]
          exact hheard
      · rw [if_neg htype] at hloops
        exact ⟨ms, data, loop, hloops, hmessages, hle, hregistered,
          hdeleted, hheard⟩

/-- The calls of a listener, one more. -/
theorem heardBy_append (s : HonoWebSocket) (l l' : Nat) (data : Payload)
    (h : s'.heard = s.heard ++ [(l', data)]) :
    s'.heardBy l = s.heardBy l ++ (if l' = l then [data] else []) := by
  unfold heardBy
  rw [h, List.filter_append, List.map_append]
  by_cases hl : l' = l
  · simp [hl]
  · simp [hl]

/-- The loop of a message goes on: it calls a listener, or ends. -/
theorem Hears.continueMessage (h : Hears l n before s) {data : Payload}
    {loop : Loop Nat} {toProperty : Bool} {rest : List Frame}
    (hstack : s.stack = .dispatch (.message data) loop toProperty :: rest)
    (hfollows : Follows (s.eventListeners .message) loop) :
    Hears l n before
      (s.continueLoop (.message data) loop toProperty rest) := by
  have htop : messageLoops s.stack = (data, loop) :: messageLoops rest := by
    rw [hstack]
    rfl
  rcases h.heard with ⟨hnone, _⟩
    | ⟨ms, data', loop', hone, hmessages, hle, hregistered, hdeleted,
      hheard⟩
  · rw [htop] at hnone
    cases hnone
  rw [htop] at hone
  injection hone with hsame hrest
  injection hsame with hdata hloop
  subst hdata
  subst hloop
  unfold continueLoop
  cases hnext : (s.eventListeners (Event.message data).type).next
      loop.index with
  | some next =>
      obtain ⟨l', i⟩ := next
      refine ⟨h.listens, Or.inr ⟨ms, data, loop.call l' i, ?_, hmessages,
        hle, hregistered, hdeleted, ?_⟩⟩
      · show _ :: messageLoops rest = _
        rw [hrest]
      · rw [heardBy_append s l l' data rfl, hheard]
        by_cases hl : l' = l
        · -- it has not been removed, so this is its first call
          subst hl
          have hcalled : l' ∈ (loop.call l' i).called :=
            List.mem_append_right _ List.mem_cons_self
          rw [if_pos rfl, if_neg (hfollows.not_called hnext hdeleted),
            if_pos hcalled, List.drop_append_of_le_length hle,
            List.append_assoc]
        · have hcalled : l ∈ (loop.call l' i).called ↔ l ∈ loop.called := by
            show l ∈ loop.called ++ [l'] ↔ _
            rw [List.mem_append, List.mem_singleton]
            exact or_iff_left (Ne.symm hl)
          rw [if_neg hl, List.append_nil]
          simp only [hcalled]
  | none =>
      have hcalled : l ∈ loop.called :=
        (hfollows.fair hnext).called hregistered hdeleted
      rw [if_pos hcalled, ← hmessages] at hheard
      have hended : Hears l n before { s with
          stack := rest
          dispatched := s.dispatched ++ [⟨.message data, loop,
            (s.eventListeners .message).elements⟩] } := by
        refine ⟨h.listens, Or.inl ⟨hrest, ?_, hheard⟩⟩
        show n ≤ s.messages.length
        rw [hmessages, List.length_append]
        exact Nat.le_trans hle (Nat.le_add_right _ _)
      cases toProperty with
      | true => exact hended.mute (callProperty_mute _ _)
      | false => exact hended

/-- Another loop goes on. -/
theorem continueLoop_mute {event : Event} (hevent : ∀ l, hears l event = [])
    {loop : Loop Nat} {toProperty : Bool} {rest : List Frame}
    (hstack : s.stack = .dispatch event loop toProperty :: rest) :
    Mute s (s.continueLoop event loop toProperty rest) := by
  have hnone : ∀ loop', messageLoop (.dispatch event loop' toProperty)
      = none := by
    intro loop'
    cases event with
    | message data => cases hevent 0
    | opened => rfl
    | close event => rfl
    | error cause => rfl
    | custom type => rfl
  have hpop := pop_mute hstack (hnone loop)
  unfold continueLoop
  cases (s.eventListeners event.type).next loop.index with
  | some next =>
      obtain ⟨l, i⟩ := next
      refine ⟨rfl, rfl, ?_, ?_⟩
      · show s.heard ++ hears l event = s.heard
        rw [hevent l, List.append_nil]
      · rw [← hpop.loops]
        exact (messageLoops_cons rfl _).trans (messageLoops_cons (hnone _) _)
  | none =>
      have hended : Mute s { s with
          stack := rest
          dispatched := s.dispatched ++ [⟨event, loop,
            (s.eventListeners event.type).elements⟩] } :=
        ⟨rfl, rfl, rfl, hpop.loops⟩
      cases toProperty with
      | true => exact hended.trans (callProperty_mute event _)
      | false => exact hended

/-- A method. -/
theorem Hears.callMethod (h : Hears l n before s) {m : Method}
    (hok : s.Undisturbed l (.call m)) :
    Hears l n before (s.callMethod m) := by
  cases m with
  | send data => exact h.mute (send_mute data s)
  | close code reason => exact h.mute (close_mute _ _ s)
  | addEventListener type l' => exact h.addEventListener type l'
  | removeEventListener type l' =>
      apply h.removeEventListener
      intro htype
      subst htype
      exact hok
  | setProperty type handler => exact h.mute (setProperty_mute type handler s)
  | dispatchEvent type => exact h.mute (beginLoop_mute rfl _ s)
  | handleMessage data => exact h.handleMessage data hok
  | handleClose code reason =>
      exact h.mute ⟨rfl, rfl, rfl, messageLoops_cons rfl _⟩
  | handleError => exact h.mute (beginLoop_mute rfl _ s)

/-- A step. -/
theorem Hears.step (h : Hears l n before s) (hloops : Loops s) {a : Step}
    (hok : s.Undisturbed l a) (hstep : s.step a = some s') :
    Hears l n before s' := by
  cases a with
  | call m =>
      simp only [HonoWebSocket.step] at hstep
      split at hstep
      · injection hstep with hstep
        exact hstep ▸ h.callMethod hok
      · cases hstep
  | ret => exact h.mute (ret_mute hstep)
  | throws => exact h.mute (throws_mute hstep)
  | internal =>
      simp only [HonoWebSocket.step, HonoWebSocket.internal] at hstep
      split at hstep
      · next event loop toProperty rest hstack =>
        injection hstep with hstep
        have hfollows := hloops.running event loop toProperty
          (hstack ▸ List.mem_cons_self)
        subst hstep
        cases event with
        | message data => exact h.continueMessage hstack hfollows
        | opened => exact h.mute (continueLoop_mute (fun _ => rfl) hstack)
        | close event => exact h.mute (continueLoop_mute (fun _ => rfl) hstack)
        | error cause => exact h.mute (continueLoop_mute (fun _ => rfl) hstack)
        | custom type => exact h.mute (continueLoop_mute (fun _ => rfl) hstack)
      · cases hstep
  | timer =>
      simp only [HonoWebSocket.step, HonoWebSocket.timer] at hstep
      split at hstep
      · injection hstep with hstep
        exact hstep ▸ h.mute ⟨rfl, rfl, rfl, messageLoops_cons rfl _⟩
      · cases hstep
  | converted i =>
      simp only [HonoWebSocket.step, HonoWebSocket.converted] at hstep
      split at hstep
      · next bytes hstack _ =>
        injection hstep with hstep
        exact hstep ▸ h.mute ⟨rfl, rfl, rfl, by rw [hstack]; rfl⟩
      · cases hstep
  | rejected i =>
      simp only [HonoWebSocket.step, HonoWebSocket.rejected] at hstep
      split at hstep
      · injection hstep with hstep
        exact hstep ▸ h.mute ⟨rfl, rfl, rfl, rfl⟩
      · cases hstep
  | caught =>
      simp only [HonoWebSocket.step, HonoWebSocket.caught] at hstep
      split at hstep
      · injection hstep with hstep
        exact hstep ▸ h.mute ⟨rfl, rfl, rfl, messageLoops_cons rfl _⟩
      · cases hstep

/-- Over a run. -/
theorem Hears.run {as : List Step} :
    ∀ {s s' : HonoWebSocket}, Hears l n before s → Loops s →
      honoSystem.RunOk (Undisturbed l) s as →
      honoSystem.run s as = some s' → Hears l n before s' := by
  induction as with
  | nil =>
      intro s s' h _ _ hrun
      injection hrun with hrun
      exact hrun ▸ h
  | cons a as ih =>
      intro s s' h hloops hok hrun
      obtain ⟨t, hstep, hrun⟩ := System.run_cons hrun
      simp only [System.RunOk] at hok
      rw [hstep] at hok
      exact ih (h.step hloops hok.1 hstep) (step_loops hloops hstep) hok.2
        hrun

/-- A listener that is registered for messages and not removed is called
with every message that arrives, once and in the order of their arrival, if
no message arrives while another is being dispatched. -/
theorem adapter_in_order {s s' : HonoWebSocket} {as : List Step}
    (hreachable : honoSystem.Reachable s) (hlistens : s.Listens l)
    (hquiet : s.QuietMessages) (hok : honoSystem.RunOk (Undisturbed l) s as)
    (hrun : honoSystem.run s as = some s') (hquiet' : s'.QuietMessages) :
    s'.heardBy l = s.heardBy l ++ s'.messages.drop s.messages.length := by
  have hstart : Hears l s.messages.length (s.heardBy l) s := by
    refine ⟨hlistens, Or.inl ⟨hquiet, Nat.le_refl _, ?_⟩⟩
    rw [List.drop_length, List.append_nil]
  have hend := hstart.run (reachable_loops hreachable) hok hrun
  rcases hend.heard with ⟨_, _, hheard⟩ | ⟨_, _, _, hloops, _⟩
  · exact hheard
  · rw [hquiet'] at hloops
    cases hloops

/-- Listener 1 hears two messages, while listener 2 comes and goes. -/
def twoMessages : List Step :=
  [.call (.handleMessage (.text "a")), .internal,
    .call (.addEventListener .message 2), .ret, .internal,
    .call (.removeEventListener .message 2), .ret, .internal,
    .call (.handleMessage (.buffer [1])), .internal, .ret, .internal]

theorem adapter_in_order_two :
    ∃ s s', honoSystem.run {} [.call (.addEventListener .message 1)] = some s
      ∧ honoSystem.run s twoMessages = some s'
      ∧ s'.heardBy 1 = s.heardBy 1 ++ s'.messages.drop s.messages.length
      ∧ s'.heardBy 1 = [.text "a", .binary [1]] := by
  have hinit : honoSystem.Reachable {} := .init rfl
  have hreachable := hinit.run [.call (.addEventListener .message 1)] rfl
  exact ⟨_, _, rfl, rfl,
    @adapter_in_order 1 _ _ twoMessages hreachable (by decide)
      (by decide) (by decide) rfl (by decide), rfl⟩

end HonoWebSocket

end RivetKit.Manager
