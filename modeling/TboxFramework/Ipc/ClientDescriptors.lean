import TboxFramework.Ipc.Client

/-!
# The descriptor of a client

`connect` and the lazy connect of a call look at `m_connected` before they call
`doConnect`; the reconnect of a call does not, although other threads run while
it backs off. The descriptors stay accounted for exactly as long as no reconnect
finds one in `m_fd`.
-/

namespace TboxFramework.Ipc.Client

open Interleaving

set_option autoImplicit false

variable {Thread : Type}

/-- `m_connected` implies a descriptor, and every descriptor that `doConnect` has
opened is the current one or closed. -/
structure Accounted (state : State Thread) : Prop where
  connected : state.connected → state.fd.isSome
  current : ∀ fd socket, state.descriptors fd = some socket → state.fd = some fd

/-- Nobody has connected the client when a call reconnects after its backoff. -/
def ReconnectsClosed (state : State Thread) : Action Thread → Prop
  | .reconnect _ _ => state.fd = none
  | _ => True

instance (state : State Thread) (action : Action Thread) :
    Decidable (ReconnectsClosed state action) := by
  unfold ReconnectsClosed
  split <;> infer_instance

structure Tied (state : State Thread) : Prop where
  connected : state.connected = state.fd.isSome
  current : ∀ fd socket, state.descriptors fd = some socket → state.fd = some fd
  opened : ∀ fd, state.fd = some fd → (state.descriptors fd).isSome

namespace Tied

variable {state next : State Thread}

theorem initially : Tied (initial : State Thread) := by
  constructor <;> simp [initial]

theorem accounted (tied : Tied state) : Accounted state :=
  ⟨fun connected => tied.connected ▸ connected, tied.current⟩

/-- Only three fields matter. -/
theorem of_same (tied : Tied state)
    (same : (next.fd, next.connected, next.descriptors) =
      (state.fd, state.connected, state.descriptors)) : Tied next := by
  simp only [Prod.mk.injEq] at same
  rcases same with ⟨fd, connected, descriptors⟩
  constructor
  · rw [connected, fd]
    exact tied.connected
  · rw [descriptors, fd]
    exact tied.current
  · rw [descriptors, fd]
    exact tied.opened

/-- A client without a descriptor has none open. -/
theorem none_open (tied : Tied state) (closed : state.fd = none) (fd : Fd) :
    state.descriptors fd = none := by
  cases found : state.descriptors fd with
  | none => rfl
  | some socket =>
      have current := tied.current fd socket found
      rw [closed] at current
      cases current

theorem close (tied : Tied state) : Tied state.close := by
  have emptied : ∀ fd, state.close.descriptors fd = none := by
    intro fd
    unfold State.close
    cases held : state.fd with
    | none => exact tied.none_open held fd
    | some own =>
        by_cases same : fd = own
        · simp [same]
        · cases found : state.descriptors fd with
          | none => simp [same, found]
          | some socket =>
              have current := tied.current fd socket found
              rw [held, Option.some.injEq] at current
              exact absurd current.symm same
  constructor
  · rfl
  · intro fd socket found
    rw [emptied] at found
    cases found
  · nofun

theorem do_connect (tied : Tied state) (closed : state.fd = none) {outcome : ConnectOutcome}
    (done : state.doConnect outcome = some next) : Tied next := by
  have disconnected : state.connected = false := by rw [tied.connected, closed]; rfl
  cases outcome with
  | socketFailed =>
      cases done
      exact tied.of_same (by rw [closed])
  | connectFailed fd =>
      obtain ⟨-, rfl⟩ := (guarded_eq_some ..).mp done
      exact tied.of_same (by rw [closed])
  | connected fd =>
      obtain ⟨-, rfl⟩ := (guarded_eq_some ..).mp done
      constructor
      · rfl
      · intro other socket found
        by_cases same : other = fd
        · rw [same]
        · simp only [Function.update_of_ne same, tied.none_open closed other] at found
          cases found
      · intro other held
        cases held
        simp

/-- `doConnect` over an open descriptor loses track of it, or leaves
`m_connected` behind without one. -/
theorem do_connect_over (tied : Tied state) (held : state.fd ≠ none) {outcome : ConnectOutcome}
    (done : state.doConnect outcome = some next) : ¬Accounted next := by
  obtain ⟨own, mine⟩ := Option.ne_none_iff_exists'.mp held
  have connected : state.connected = true := by rw [tied.connected, mine]; rfl
  intro accounted
  cases outcome with
  | socketFailed =>
      cases done
      exact absurd (accounted.connected connected) nofun
  | connectFailed fd =>
      obtain ⟨-, rfl⟩ := (guarded_eq_some ..).mp done
      exact absurd (accounted.connected connected) nofun
  | connected fd =>
      obtain ⟨free, rfl⟩ := (guarded_eq_some ..).mp done
      obtain ⟨socket, found⟩ := Option.isSome_iff_exists.mp (tied.opened own mine)
      have different : own ≠ fd := by
        rintro rfl
        rw [free] at found
        cases found
      have current := accounted.current own socket
        ((Function.update_of_ne different ..).trans found)
      exact different (Option.some.inj current).symm

end Tied

variable [DecidableEq Thread] {maxFrameBytes : UInt32} {state next : State Thread}
  {action : Action Thread}

theorem tied_step (tied : Tied state) (allowed : ReconnectsClosed state action)
    (taken : step maxFrameBytes state action = some next) : Tied next := by
  have closed : ¬state.connected = true → state.fd = none := by
    intro apart
    rw [tied.connected] at apart
    simpa using apart
  cases action with
  | connect thread outcome =>
      obtain ⟨-, ⟨-, rfl⟩ | ⟨apart, done⟩⟩ := step_connect taken
      · exact tied
      · exact tied.do_connect (closed apart) done
  | disconnect thread =>
      obtain ⟨-, rfl⟩ := (guarded_eq_some ..).mp taken
      exact tied.close
  | isConnected thread =>
      obtain ⟨-, rfl⟩ := (guarded_eq_some ..).mp taken
      exact tied
  | call thread call =>
      obtain ⟨-, rfl⟩ := (guarded_eq_some ..).mp taken
      exact tied.of_same rfl
  | lockCall thread =>
      obtain ⟨id, call, -, -, rfl⟩ := step_lock_call taken
      exact tied.of_same rfl
  | lazyConnect thread outcome =>
      obtain ⟨id, call, -, ⟨-, rfl⟩ | ⟨apart, middle, done, rfl⟩⟩ := step_lazy_connect taken
      · exact tied.of_same rfl
      · exact (tied.do_connect (closed apart) done).of_same rfl
  | getFd thread =>
      obtain ⟨call, attempt, -, rfl⟩ := step_get_fd taken
      exact tied.of_same rfl
  | send thread count =>
      obtain ⟨call, attempt, fd, rest, socket, -, -, -, -, rfl⟩ := step_send taken
      exact tied.of_same rfl
  | sendFails thread =>
      obtain ⟨call, attempt, fd, rest, -, rfl⟩ := step_send_fails taken
      exact tied.of_same rfl
  | recv thread count =>
      obtain ⟨call, attempt, fd, got, socket, wanted, -, -, -, -, -, -, rfl⟩ := step_recv taken
      exact tied.of_same rfl
  | recvFails thread =>
      obtain ⟨call, attempt, fd, got, -, rfl⟩ := step_recv_fails taken
      exact tied.of_same rfl
  | closeFailed thread =>
      obtain ⟨call, attempt, -, rfl⟩ := step_close_failed taken
      exact tied.close.of_same rfl
  | reconnect thread outcome =>
      obtain ⟨id, call, middle, -, done, rfl⟩ := step_reconnect taken
      exact (tied.do_connect allowed done).of_same rfl
  | unlockCall thread =>
      obtain ⟨id, result, -, rfl⟩ := step_unlock_call taken
      exact tied.of_same rfl
  | serverRecv socket count =>
      obtain ⟨got, wanted, -, -, -, -, -, rfl⟩ := step_server_recv taken
      exact tied.of_same rfl
  | handle socket outcome =>
      obtain ⟨attempt, methodId, paramsJson, -, rfl⟩ := step_handle taken
      exact tied.of_same rfl
  | serverSend socket count =>
      obtain ⟨rest, -, -, -, rfl⟩ := step_server_send taken
      exact tied.of_same rfl
  | serverCloses socket =>
      obtain ⟨-, rfl⟩ := step_server_closes taken
      exact tied.of_same rfl

theorem reconnect_over_loses (tied : Tied state) (refused : ¬ReconnectsClosed state action)
    (taken : step maxFrameBytes state action = some next) : ¬Accounted next := by
  cases action with
  | reconnect thread outcome =>
      obtain ⟨id, call, middle, -, done, rfl⟩ := step_reconnect taken
      intro accounted
      exact tied.do_connect_over refused done ⟨accounted.connected, accounted.current⟩
  | _ => exact absurd trivial refused

/-- The descriptors stay accounted for in every state of a run exactly when no
reconnect of the run finds the client connected again. -/
theorem descriptors_accounted (maxFrameBytes : UInt32) (actions : List (Action Thread))
    (last : State Thread) (completed : run (step maxFrameBytes) initial actions = some last) :
    Always (step maxFrameBytes) Accounted initial actions ↔
      Along (step maxFrameBytes) ReconnectsClosed initial actions :=
  always_iff_along (fun _ _ _ => tied_step) (fun _ => Tied.accounted)
    (fun _ _ _ => reconnect_over_loses) Tied.initially completed

def ping : Call := ⟨false, 1, []⟩

/-- The first attempt of a call fails and its thread backs off. -/
def backingOff : List (Action (Fin 2)) :=
  [.call 0 ping, .lockCall 0, .lazyConnect 0 (.connected 3), .getFd 0, .sendFails 0,
    .closeFailed 0]

theorem lone_reconnect_accounted :
    ∃ last, run (step 1024) initial (backingOff ++ [.reconnect 0 (.connected 3)]) = some last ∧
      Always (step 1024) Accounted initial (backingOff ++ [.reconnect 0 (.connected 3)]) :=
  ⟨_, rfl, (descriptors_accounted 1024 (backingOff ++ [.reconnect 0 (.connected 3)]) _ rfl).mpr
    (by decide)⟩

/-- Another thread connects during the backoff: the reconnect then leaks that
thread's descriptor, or leaves `m_connected` set without a descriptor. -/
theorem reconnect_in_the_gap_loses_descriptor :
    ∃ between, run (step 1024) initial (backingOff ++ [.connect 1 (.connected 3)]) = some between ∧
      (∃ leaked, step 1024 between (.reconnect 0 (.connected 4)) = some leaked ∧
        leaked.descriptors 3 = some 1 ∧ leaked.fd = some 4 ∧ ¬Accounted leaked) ∧
      ∃ stale, step 1024 between (.reconnect 0 .socketFailed) = some stale ∧
        stale.connected = true ∧ stale.fd = none ∧ ¬Accounted stale := by
  refine ⟨_, rfl, ⟨_, rfl, rfl, rfl, ?_⟩, _, rfl, rfl, rfl, ?_⟩
  · intro accounted
    exact absurd (accounted.current 3 1 rfl) (by decide)
  · intro accounted
    exact absurd (accounted.connected rfl) (by decide)

end TboxFramework.Ipc.Client
