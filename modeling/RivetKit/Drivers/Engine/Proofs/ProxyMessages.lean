/-
The proxy of a WebSocket is a faithful channel in every run in which the
target sends no typed arrays and its `Blob`s are converted in their order,
with nothing else in between (`proxy_faithful`).

# The two directions

- To the target nothing is assumed: the calls of `onMessage` are a queue
  that is served from its head (`TargetInv`).
- To the client, `Blob`s take another way than the other messages, and a
  view takes none. What was received with what is being converted behind
  it is what was sent, as long as the client's socket is open
  (`ClientInv`); this is what the condition is for.
-/
import RivetKit.Drivers.Engine.ProxyMessages

namespace RivetKit.Drivers.Engine

open Transition
open Actor (Bytes)

namespace WsProxy

variable {s s' : WsProxy}

-- ========================================================== to the target

/-- The target is there, and the promise says so if it is open. -/
def Live (s : WsProxy) : Prop :=
  s.targetWs = some .connecting ∧ s.connectPromise = .pending
    ∨ s.targetWs = some .opened ∧ s.connectPromise = .resolved

/-- The client's messages, as far as they are. -/
structure TargetInv (s : WsProxy) : Prop where
  fresh : s.upgraded = false →
    s.clientSent = [] ∧ s.targetWs = none ∧ s.connectPromise = .pending
  waits : s.targetWs = none → s.calls = [] ∧ s.targetReceived = []
  live : s.upgraded = true → s.Closed ∨ s.Live
  all : s.Live →
    s.targetReceived ++ s.calls.map (·.payload)
      = s.clientSent.map (·.payload)
  first : s.targetReceived <+: s.clientSent.map (·.payload)
  early : s.targetWs = some .connecting → s.connectPromise ≠ .resolved

theorem targetInv_empty : TargetInv {} where
  fresh := fun _ => ⟨rfl, rfl, rfl⟩
  waits := fun _ => ⟨rfl, rfl⟩
  live := by
    intro h
    cases h
  all := fun _ => rfl
  first := List.nil_prefix
  early := by
    intro h
    cases h

/-- A side that has all in its order has the first of it. -/
theorem TargetInv.closeClient (h : s.TargetInv) :
    s.closeClient.TargetInv where
  fresh := h.fresh
  waits := h.waits
  live := fun _ => Or.inl (Or.inl rfl)
  all := h.all
  first := h.first
  early := h.early

theorem TargetInv.clientSend (h : s.TargetInv) (payload : Payload) :
    (s.clientSend payload).TargetInv := by
  unfold WsProxy.clientSend
  split
  · exact ⟨h.fresh, h.waits, h.live, h.all, h.first, h.early⟩
  · exact h

/-- A closed target is in no other state. -/
theorem closeTarget_ne {state : TargetReadyState} (hstate : state ≠ .closed) :
    s.closeTarget.targetWs ≠ some state := by
  intro h
  unfold WsProxy.closeTarget at h
  cases htarget : s.targetWs with
  | none =>
      rw [htarget] at h
      cases h
  | some old =>
      rw [htarget] at h
      injection h with h
      exact hstate h.symm

theorem not_live_closeTarget : ¬ s.closeTarget.Live := by
  rintro (⟨h, -⟩ | ⟨h, -⟩)
  · exact closeTarget_ne (by simp) h
  · exact closeTarget_ne (by simp) h

theorem TargetInv.closeTarget (h : s.TargetInv) :
    s.closeTarget.TargetInv where
  fresh := by
    intro hupgraded
    obtain ⟨hsent, htarget, hpromise⟩ := h.fresh hupgraded
    refine ⟨hsent, ?_, hpromise⟩
    unfold WsProxy.closeTarget
    rw [htarget]
    rfl
  waits := by
    intro hnone
    exact h.waits (Option.map_eq_none_iff.1 hnone)
  live := by
    intro hupgraded
    refine Or.inl ?_
    cases htarget : s.targetWs with
    | none =>
        -- without a target the client was not open
        rcases h.live hupgraded with (hclient | hclosed) | hlive
        · exact Or.inl hclient
        · rw [htarget] at hclosed
          cases hclosed
        · unfold Live at hlive
          rw [htarget] at hlive
          rcases hlive with ⟨hlive, -⟩ | ⟨hlive, -⟩
          · cases hlive
          · cases hlive
    | some state =>
        refine Or.inr ?_
        unfold WsProxy.closeTarget
        rw [htarget]
        rfl
  all := fun hlive => absurd hlive not_live_closeTarget
  first := h.first
  early := fun hconnecting => absurd hconnecting (closeTarget_ne (by simp))

/-- An outcome of the connection that comes too late, or closes it. -/
theorem TargetInv.reject (h : s.TargetInv) (hclosed : s.Closed)
    (htarget : s.targetWs ≠ none) : (s.settle .rejected).TargetInv := by
  unfold settle
  split
  · refine ⟨?_, h.waits, fun _ => Or.inl hclosed, ?_, h.first, ?_⟩
    · intro hupgraded
      exact absurd (h.fresh hupgraded).2.1 htarget
    · rintro (⟨-, hpromise⟩ | ⟨-, hpromise⟩)
      · cases hpromise
      · cases hpromise
    · intro _ hpromise
      cases hpromise
  · exact h

theorem TargetInv.onOpen (h : s.TargetInv) (hstep : s.onOpen = some s') :
    s'.TargetInv := by
  unfold WsProxy.onOpen at hstep
  split at hstep
  · cases hstep
  · rename_i hupgraded
    obtain ⟨hsent, htarget, hpromise⟩ := h.fresh (by simpa using hupgraded)
    obtain ⟨hcalls, hreceived⟩ := h.waits htarget
    split at hstep
    · injection hstep with hs
      rw [← hs]
      refine ⟨?_, ?_, fun _ => Or.inr (Or.inl ⟨rfl, hpromise⟩), ?_, h.first,
        ?_⟩
      · intro hfalse
        cases hfalse
      · intro hnone
        cases hnone
      · intro _
        show s.targetReceived ++ s.calls.map _ = s.clientSent.map _
        rw [hreceived, hcalls, hsent]
        rfl
      · intro _ hresolved
        exact absurd (hpromise.symm.trans hresolved) (by simp)
    · rename_i hclient
      injection hstep with hs
      rw [← hs]
      have hclosed : s.Closed := Or.inl (by simpa using hclient)
      refine ⟨?_, h.waits, fun _ => Or.inl hclosed, h.all, h.first, h.early⟩
      intro hfalse
      cases hfalse

theorem TargetInv.onMessage (h : s.TargetInv) {data : MessageData}
    (hstep : s.onMessage data = some s') : s'.TargetInv := by
  have hfirst : s.targetReceived
      <+: (s.clientSent ++ [data]).map (·.payload) := by
    rw [List.map_append]
    exact h.first.trans (List.prefix_append _ _)
  unfold WsProxy.onMessage at hstep
  dsimp only at hstep
  split at hstep
  · rename_i hupgraded
    have hnot : s.upgraded ≠ false := by
      rw [hupgraded]
      simp
    split at hstep
    · rename_i hnone
      have hnone : s.targetWs = none := Option.isNone_iff_eq_none.1 hnone
      injection hstep with hs
      rw [← hs]
      refine ⟨fun hfalse => absurd hfalse hnot, h.waits, h.live, ?_, hfirst,
        h.early⟩
      rintro (⟨hlive, -⟩ | ⟨hlive, -⟩)
      · exact absurd (hnone.symm.trans hlive) (by simp)
      · exact absurd (hnone.symm.trans hlive) (by simp)
    · rename_i hsome
      injection hstep with hs
      rw [← hs]
      refine ⟨fun hfalse => absurd hfalse hnot, ?_, h.live, ?_, hfirst,
        h.early⟩
      · intro hnone
        exact absurd (Option.isNone_iff_eq_none.2 hnone) hsome
      · intro hlive
        show s.targetReceived ++ (s.calls ++ [data]).map (·.payload)
          = (s.clientSent ++ [data]).map (·.payload)
        rw [List.map_append, List.map_append, ← List.append_assoc,
          h.all hlive]
  · cases hstep

theorem TargetInv.resume (h : s.TargetInv) (hstep : s.resume = some s') :
    s'.TargetInv := by
  -- a call that goes on is the oldest, and there was a target for it
  have hwaits : s.calls ≠ [] → s.targetWs ≠ none := by
    intro hcalls hnone
    exact hcalls (h.waits hnone).1
  unfold WsProxy.resume at hstep
  dsimp only at hstep
  split at hstep
  case h_1 data calls hcalls hpromise =>
    have hsome := hwaits (by
      rw [hcalls]
      simp)
    split at hstep
    case isTrue hopened =>
      have hlive : s.Live := Or.inr ⟨hopened, hpromise⟩
      have hall := h.all hlive
      rw [hcalls, List.map_cons] at hall
      have hall : (s.targetReceived ++ [data.payload])
          ++ calls.map (·.payload) = s.clientSent.map (·.payload) := by
        rw [List.append_assoc]
        exact hall
      injection hstep with hs
      rw [← hs]
      refine ⟨h.fresh, fun hnone => absurd hnone hsome, h.live,
        fun _ => hall, ⟨_, hall⟩, h.early⟩
    case isFalse hopened =>
      injection hstep with hs
      rw [← hs]
      refine ⟨h.fresh, fun hnone => absurd hnone hsome, h.live, ?_, h.first,
        h.early⟩
      rintro (⟨-, hpending⟩ | ⟨hlive, -⟩)
      · exact absurd (hpromise.symm.trans hpending) (by simp)
      · exact absurd hlive hopened
  case h_2 data calls hcalls hpromise =>
    have hsome := hwaits (by
      rw [hcalls]
      simp)
    injection hstep with hs
    rw [← hs]
    refine ⟨h.fresh, fun hnone => absurd hnone hsome,
      fun _ => Or.inl (Or.inl rfl), ?_, h.first, h.early⟩
    rintro (⟨-, hother⟩ | ⟨-, hother⟩)
    · exact absurd (hpromise.symm.trans hother) (by simp)
    · exact absurd (hpromise.symm.trans hother) (by simp)
  case h_3 => cases hstep

/-- A target opens for a client that is gone. -/
theorem TargetInv.openedLate (h : s.TargetInv)
    (hconnecting : s.targetWs = some .connecting)
    (hclient : s.clientOpen = false) :
    TargetInv { s with targetWs := some .opened } where
  fresh := by
    intro hupgraded
    exact absurd (hconnecting.symm.trans (h.fresh hupgraded).2.1) (by simp)
  waits := by
    intro hnone
    cases hnone
  live := fun _ => Or.inl (Or.inl hclient)
  all := by
    rintro (⟨hlive, -⟩ | ⟨-, hresolved⟩)
    · cases hlive
    · exact absurd hresolved (h.early hconnecting)
  first := h.first
  early := by
    intro hlive
    cases hlive

theorem TargetInv.targetOpen (h : s.TargetInv)
    (hstep : s.targetOpen = some s') : s'.TargetInv := by
  unfold WsProxy.targetOpen at hstep
  dsimp only at hstep
  split at hstep
  case isFalse => cases hstep
  case isTrue hconnecting =>
    have hupgraded : s.upgraded ≠ false := by
      intro hupgraded
      exact absurd (hconnecting.symm.trans (h.fresh hupgraded).2.1) (by simp)
    split at hstep
    case isTrue hclient =>
      -- a promise that was rejected would have closed the client
      have hpending : s.connectPromise = .pending := by
        rcases h.live (by simpa using hupgraded) with
          (hclosed | hclosed) | ⟨-, hpending⟩ | ⟨hopened, -⟩
        · exact absurd (hclosed.symm.trans hclient) (by simp)
        · exact absurd (hconnecting.symm.trans hclosed) (by simp)
        · exact hpending
        · exact absurd (hconnecting.symm.trans hopened) (by simp)
      injection hstep with hs
      rw [← hs]
      unfold settle
      rw [if_pos hpending]
      refine ⟨fun hfalse => absurd hfalse hupgraded, ?_,
        fun _ => Or.inr (Or.inr ⟨rfl, rfl⟩), ?_, h.first, ?_⟩
      · intro hnone
        cases hnone
      · exact fun _ => h.all (Or.inl ⟨hconnecting, hpending⟩)
      · intro hlive
        cases hlive
    case isFalse hclient =>
      have hclient : s.clientOpen = false := by simpa using hclient
      injection hstep with hs
      rw [← hs]
      refine (h.openedLate hconnecting hclient).closeTarget.reject
        (Or.inl hclient) ?_
      intro hnone
      cases hnone

theorem TargetInv.targetMessage (h : s.TargetInv) {data : MessageData}
    (hstep : s.targetMessage data = some s') : s'.TargetInv := by
  have hsent : TargetInv { s with targetSent := s.targetSent ++ [data] } :=
    ⟨h.fresh, h.waits, h.live, h.all, h.first, h.early⟩
  unfold WsProxy.targetMessage at hstep
  split at hstep
  case isFalse => cases hstep
  case isTrue =>
    cases data with
    | string text =>
        injection hstep with hs
        rw [← hs]
        exact hsent.clientSend _
    | arrayBuffer b =>
        injection hstep with hs
        rw [← hs]
        exact hsent.clientSend _
    | blob b =>
        injection hstep with hs
        rw [← hs]
        exact ⟨h.fresh, h.waits, h.live, h.all, h.first, h.early⟩
    | view b =>
        injection hstep with hs
        rw [← hs]
        exact hsent

theorem TargetInv.converted (h : s.TargetInv) {i : Nat}
    (hstep : s.converted i = some s') : s'.TargetInv := by
  unfold WsProxy.converted at hstep
  split at hstep
  case h_1 buffer hbuffer =>
    injection hstep with hs
    rw [← hs]
    refine TargetInv.clientSend ?_ _
    exact ⟨h.fresh, h.waits, h.live, h.all, h.first, h.early⟩
  case h_2 => cases hstep

theorem settle_closeClient (outcome : ConnectPromise) :
    (s.settle outcome).closeClient = s.closeClient.settle outcome := by
  unfold settle WsProxy.closeClient
  by_cases hpending : s.connectPromise = .pending
  · rw [if_pos hpending, if_pos hpending]
  · rw [if_neg hpending, if_neg hpending]

/-- What one event keeps. -/
theorem TargetInv.step (h : s.TargetInv) {a : ProxyStep}
    (hstep : proxyStep s a = some s') : s'.TargetInv := by
  cases a with
  | onOpen => exact h.onOpen hstep
  | onMessage data => exact h.onMessage hstep
  | resume => exact h.resume hstep
  | clientCloses =>
      injection hstep with hs
      rw [← hs]
      exact h.closeClient
  | onClose =>
      obtain ⟨-, hs⟩ := Option.ite_none_right_eq_some.1 hstep
      injection hs with hs
      rw [← hs]
      exact h.closeClient.closeTarget
  | onError =>
      obtain ⟨-, hs⟩ := Option.ite_none_right_eq_some.1 hstep
      injection hs with hs
      rw [← hs]
      exact h.closeTarget
  | targetOpen => exact h.targetOpen hstep
  | targetMessage data => exact h.targetMessage hstep
  | converted i => exact h.converted hstep
  | targetCloses =>
      injection hstep with hs
      rw [← hs]
      exact h.closeTarget
  | targetClose =>
      obtain ⟨-, hs⟩ := Option.ite_none_right_eq_some.1 hstep
      injection hs with hs
      rw [← hs]
      exact h.closeTarget.closeClient
  | targetError =>
      obtain ⟨hsome, hs⟩ := Option.ite_none_right_eq_some.1 hstep
      injection hs with hs
      rw [← hs]
      rw [settle_closeClient]
      refine h.closeClient.reject (Or.inl rfl) ?_
      intro hnone
      have htarget : s.targetWs = none := hnone
      rw [htarget] at hsome
      cases hsome

-- ========================================================== to the client

/-- The target's messages, as far as they are. -/
structure ClientInv (s : WsProxy) : Prop where
  all : s.clientOpen = true →
    s.clientReceived ++ s.conversions.map .binary
      = s.targetSent.map (·.payload)
  first : s.clientReceived <+: s.targetSent.map (·.payload)

/-- Nothing of it changed, but that the client may be gone. -/
theorem ClientInv.of_eq (h : s.ClientInv)
    (hclient : s'.clientOpen = true → s.clientOpen = true)
    (hconversions : s'.conversions = s.conversions)
    (hsent : s'.targetSent = s.targetSent)
    (hreceived : s'.clientReceived = s.clientReceived) : s'.ClientInv where
  all := by
    intro hopen
    rw [hreceived, hconversions, hsent]
    exact h.all (hclient hopen)
  first := by
    rw [hreceived, hsent]
    exact h.first

theorem ClientInv.closeClient (h : s.ClientInv) :
    s.closeClient.ClientInv := by
  refine h.of_eq ?_ rfl rfl rfl
  intro hopen
  cases hopen

theorem ClientInv.closeTarget (h : s.ClientInv) :
    s.closeTarget.ClientInv := h.of_eq id rfl rfl rfl

theorem ClientInv.settle (h : s.ClientInv) (outcome : ConnectPromise) :
    (s.settle outcome).ClientInv := by
  unfold WsProxy.settle
  split
  · exact h.of_eq id rfl rfl rfl
  · exact h

/-- A message that is sent on at once, behind all others. -/
theorem ClientInv.send (h : s.ClientInv) {data : MessageData}
    (hnone : s.clientOpen = true → s.conversions = []) :
    (clientSend { s with targetSent := s.targetSent ++ [data] }
      data.payload).ClientInv := by
  unfold WsProxy.clientSend
  split
  case isTrue hopen =>
    have hopen : s.clientOpen = true := hopen
    have hall := h.all hopen
    rw [hnone hopen, List.map_nil, List.append_nil] at hall
    have hsent : s.clientReceived ++ [data.payload]
        = (s.targetSent ++ [data]).map (·.payload) := by
      rw [List.map_append, hall]
      rfl
    refine ⟨?_, ?_⟩
    · intro _
      show (s.clientReceived ++ [data.payload]) ++ s.conversions.map _ = _
      rw [hnone hopen, List.map_nil, List.append_nil]
      exact hsent
    · exact ⟨[], by rw [List.append_nil]; exact hsent⟩
  case isFalse hclosed =>
    refine ⟨fun hopen => absurd hopen hclosed, ?_⟩
    show s.clientReceived <+: (s.targetSent ++ [data]).map _
    rw [List.map_append]
    exact h.first.trans (List.prefix_append _ _)

theorem ClientInv.targetMessage (h : s.ClientInv) {data : MessageData}
    (hok : inOrder s (.targetMessage data))
    (hstep : s.targetMessage data = some s') : s'.ClientInv := by
  have hfirst : s.clientReceived
      <+: (s.targetSent ++ [data]).map (·.payload) := by
    rw [List.map_append]
    exact h.first.trans (List.prefix_append _ _)
  unfold WsProxy.targetMessage at hstep
  split at hstep
  case isFalse => cases hstep
  case isTrue =>
    cases data with
    | string text =>
        injection hstep with hs
        rw [← hs]
        exact h.send hok
    | arrayBuffer b =>
        injection hstep with hs
        rw [← hs]
        exact h.send hok
    | blob b =>
        injection hstep with hs
        rw [← hs]
        refine ⟨?_, hfirst⟩
        intro hopen
        show s.clientReceived ++ (s.conversions ++ [b]).map _
          = (s.targetSent ++ [_]).map _
        rw [List.map_append, List.map_append, ← List.append_assoc,
          h.all hopen]
        rfl
    | view b =>
        injection hstep with hs
        rw [← hs]
        refine ⟨?_, hfirst⟩
        intro hopen
        exact absurd (hopen.symm.trans hok) (by simp)

theorem ClientInv.converted (h : s.ClientInv) {i : Nat}
    (hok : inOrder s (.converted i)) (hstep : s.converted i = some s') :
    s'.ClientInv := by
  unfold WsProxy.converted at hstep
  split at hstep
  case h_2 => cases hstep
  case h_1 buffer hbuffer =>
    injection hstep with hs
    rw [← hs]
    unfold WsProxy.clientSend
    split
    case isFalse hclosed =>
      exact ⟨fun hopen => absurd hopen hclosed, h.first⟩
    case isTrue hopen =>
      have hopen : s.clientOpen = true := hopen
      rw [hok hopen] at hbuffer ⊢
      have hall := h.all hopen
      -- the oldest is the one behind all that was received
      cases hconversions : s.conversions with
      | nil =>
          rw [hconversions] at hbuffer
          cases hbuffer
      | cons b rest =>
          rw [hconversions] at hbuffer hall
          injection hbuffer with hbuffer
          rw [hbuffer, List.map_cons] at hall
          have hall : (s.clientReceived ++ [.binary buffer])
              ++ rest.map .binary = s.targetSent.map (·.payload) := by
            rw [List.append_assoc]
            exact hall
          exact ⟨fun _ => hall, ⟨_, hall⟩⟩

/-- What one event keeps. -/
theorem ClientInv.step (h : s.ClientInv) {a : ProxyStep}
    (hok : inOrder s a) (hstep : proxyStep s a = some s') :
    s'.ClientInv := by
  cases a with
  | onOpen =>
      have hstep : s.onOpen = some s' := hstep
      unfold WsProxy.onOpen at hstep
      split at hstep
      · cases hstep
      · split at hstep
        · injection hstep with hs
          rw [← hs]
          exact h.of_eq id rfl rfl rfl
        · injection hstep with hs
          rw [← hs]
          exact h.of_eq id rfl rfl rfl
  | onMessage data =>
      have hstep : s.onMessage data = some s' := hstep
      unfold WsProxy.onMessage at hstep
      dsimp only at hstep
      split at hstep
      · split at hstep
        · injection hstep with hs
          rw [← hs]
          exact h.of_eq id rfl rfl rfl
        · injection hstep with hs
          rw [← hs]
          exact h.of_eq id rfl rfl rfl
      · cases hstep
  | resume =>
      have hstep : s.resume = some s' := hstep
      unfold WsProxy.resume at hstep
      dsimp only at hstep
      split at hstep
      · split at hstep
        · injection hstep with hs
          rw [← hs]
          exact h.of_eq id rfl rfl rfl
        · injection hstep with hs
          rw [← hs]
          exact h.of_eq id rfl rfl rfl
      · injection hstep with hs
        rw [← hs]
        refine ClientInv.closeClient ?_
        exact h.of_eq id rfl rfl rfl
      · cases hstep
  | clientCloses =>
      injection hstep with hs
      rw [← hs]
      exact h.closeClient
  | onClose =>
      obtain ⟨-, hs⟩ := Option.ite_none_right_eq_some.1 hstep
      injection hs with hs
      rw [← hs]
      exact h.closeClient.closeTarget
  | onError =>
      obtain ⟨-, hs⟩ := Option.ite_none_right_eq_some.1 hstep
      injection hs with hs
      rw [← hs]
      exact h.closeTarget
  | targetOpen =>
      have hstep : s.targetOpen = some s' := hstep
      unfold WsProxy.targetOpen at hstep
      dsimp only at hstep
      split at hstep
      · split at hstep
        · injection hstep with hs
          rw [← hs]
          refine ClientInv.settle ?_ _
          exact h.of_eq id rfl rfl rfl
        · injection hstep with hs
          rw [← hs]
          refine ClientInv.settle (ClientInv.closeTarget ?_) _
          exact h.of_eq id rfl rfl rfl
      · cases hstep
  | targetMessage data => exact h.targetMessage hok hstep
  | converted i => exact h.converted hok hstep
  | targetCloses =>
      injection hstep with hs
      rw [← hs]
      exact h.closeTarget
  | targetClose =>
      obtain ⟨-, hs⟩ := Option.ite_none_right_eq_some.1 hstep
      injection hs with hs
      rw [← hs]
      exact h.closeTarget.closeClient
  | targetError =>
      obtain ⟨-, hs⟩ := Option.ite_none_right_eq_some.1 hstep
      injection hs with hs
      rw [← hs]
      exact (h.settle _).closeClient

-- ============================================================ the channel

/-- While no socket is closed, the client's messages are all there. -/
theorem TargetInv.all_of_not_closed (h : s.TargetInv)
    (hclosed : ¬ s.Closed) :
    s.targetReceived ++ s.calls.map (·.payload)
      = s.clientSent.map (·.payload) := by
  cases hupgraded : s.upgraded with
  | false =>
      obtain ⟨hsent, htarget, -⟩ := h.fresh hupgraded
      obtain ⟨hcalls, hreceived⟩ := h.waits htarget
      rw [hsent, hcalls, hreceived]
      rfl
  | true =>
      rcases h.live hupgraded with hc | hlive
      · exact absurd hc hclosed
      · exact h.all hlive

/-- A call that waits goes on, or the target is still to open. -/
theorem TargetInv.callsEnd (h : s.TargetInv) (hclosed : ¬ s.Closed)
    (hcalls : s.calls ≠ []) :
    (proxyStep s .resume).isSome = true
      ∨ (proxyStep s .targetOpen).isSome = true := by
  have hupgraded : s.upgraded = true := by
    cases hfalse : s.upgraded with
    | true => rfl
    | false => exact absurd (h.waits (h.fresh hfalse).2.1).1 hcalls
  rcases h.live hupgraded with hc | ⟨hconnecting, -⟩ | ⟨-, hresolved⟩
  · exact absurd hc hclosed
  · refine Or.inr ?_
    show s.targetOpen.isSome = true
    unfold WsProxy.targetOpen
    rw [if_pos hconnecting]
    dsimp only
    split
    · rfl
    · rfl
  · refine Or.inl ?_
    show s.resume.isSome = true
    unfold WsProxy.resume
    cases hlist : s.calls with
    | nil => exact absurd hlist hcalls
    | cons data calls =>
        rw [hresolved]
        dsimp only
        split
        · rfl
        · rfl

/-- Both directions. -/
theorem faithful_of_inv (htarget : s.TargetInv) (hclient : s.ClientInv) :
    s.Faithful where
  clientPrefix := hclient.first
  targetPrefix := htarget.first
  clientAll := by
    intro hclosed hconversions
    have hopen : s.clientOpen = true := by
      cases hfalse : s.clientOpen with
      | true => rfl
      | false => exact absurd (Or.inl hfalse) hclosed
    have hall := hclient.all hopen
    rw [hconversions, List.map_nil, List.append_nil] at hall
    exact hall
  targetAll := by
    intro hclosed hcalls
    have hall := htarget.all_of_not_closed hclosed
    rw [hcalls, List.map_nil, List.append_nil] at hall
    exact hall
  conversionsEnd := by
    intro hconversions
    show (s.converted 0).isSome = true
    unfold WsProxy.converted
    cases hlist : s.conversions with
    | nil => exact absurd hlist hconversions
    | cons buffer rest => rfl
  callsEnd := htarget.callsEnd

end WsProxy

open WsProxy

/-- A run in which the target's messages come as the condition says is
that of a faithful channel. -/
theorem proxy_faithful {s : WsProxy} (h : proxySystem.Reaches inOrder s) :
    s.Faithful := by
  have hinv : s.TargetInv ∧ s.ClientInv := by
    refine h.invariant (P := fun s => s.TargetInv ∧ s.ClientInv) ?_ ?_
    · intro s hs
      have hs : s = {} := hs
      rw [hs]
      exact ⟨targetInv_empty, fun _ => rfl, List.nil_prefix⟩
    · intro s a s' _ hinv hok hstep
      exact ⟨hinv.1.step hstep, hinv.2.step hok hstep⟩
  exact faithful_of_inv hinv.1 hinv.2

/-- A message from before the target opened, a `Blob` and a text behind
it. -/
theorem blob_then_text_faithful : ∃ s, proxySystem.run {}
      [.onOpen, .onMessage (.string "a"), .targetOpen, .resume,
        .targetMessage (.blob [1]), .converted 0,
        .targetMessage (.string "b")] = some s
    ∧ s.targetReceived = [.text "a"]
    ∧ s.clientReceived = [.binary [1], .text "b"] ∧ s.Faithful := by
  refine ⟨_, rfl, rfl, rfl, @proxy_faithful _ ?_⟩
  have hok : proxySystem.RunOk inOrder {} [.onOpen, .onMessage (.string "a"),
      .targetOpen, .resume, .targetMessage (.blob [1]), .converted 0,
      .targetMessage (.string "b")] :=
    ⟨trivial, trivial, trivial, trivial, trivial, fun _ => rfl, fun _ => rfl,
      trivial⟩
  exact System.Reaches.run _ (.init rfl) hok rfl

/-- A text that is sent behind a `Blob` is received before it. -/
theorem blob_overtaken :
    ¬ ∀ s, proxySystem.Reachable s → s.Faithful := by
  intro h
  have hrun := @System.Reachable.run _ _ proxySystem _ _
    [.onOpen, .targetOpen, .targetMessage (.blob [1]),
      .targetMessage (.string "a"), .converted 0] (.init rfl) rfl
  exact absurd (h _ hrun).clientPrefix (by decide)

end RivetKit.Drivers.Engine
