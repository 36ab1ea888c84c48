import TboxFramework.Ipc.Client

/-!
# The connection of a call

`doCall` uses the descriptor that `getFd` has copied out of `m_fd` without
`m_stateMutex`, and `disconnect` does not take `m_callMutex`. The kernel may give
the number of a closed descriptor to the next `connect`, or to any other part of
the process.
-/

namespace TboxFramework.Ipc.Client

open Interleaving FrameStream

set_option autoImplicit false

/-- A client and the rest of its process. -/
structure World (Thread : Type) where
  client : State Thread
  /-- The descriptors that other parts of the process have open. -/
  foreign : Fd → Bool
  /-- The connection that was open when `getFd` last returned. -/
  target : Thread → Option SocketId

inductive WorldAction (Thread : Type)
  | acts (action : Action Thread)
  | openOther (fd : Fd)
  | closeOther (fd : Fd)
  | sendOther (thread : Thread) (count : Nat)
  | recvOther (thread : Thread) (bytes : Bytes)
  deriving DecidableEq, Repr

variable {Thread : Type}

def initialWorld : World Thread where
  client := initial
  foreign := fun _ => false
  target := fun _ => none

/-- The descriptor that a `doCall` works with. -/
def Point.using : Point → Option Fd
  | .sending _ _ fd _ | .receiving _ _ fd _ => some fd
  | _ => none

/-- A thread holds `m_callMutex`. -/
def Point.calling : Point → Bool
  | .idle | .lockingCall _ _ => false
  | _ => true

/-- The number that `socket` returns to `doConnect`, if it is called. -/
def Action.number : Action Thread → Option Fd
  | .connect _ (.connectFailed fd) | .connect _ (.connected fd)
  | .lazyConnect _ (.connectFailed fd) | .lazyConnect _ (.connected fd)
  | .reconnect _ (.connectFailed fd) | .reconnect _ (.connected fd) => some fd
  | _ => none

/-- The number under which an action leaves a descriptor open. -/
def WorldAction.opens (client : State Thread) : WorldAction Thread → Option Fd
  | .acts (.connect _ (.connected fd)) | .acts (.lazyConnect _ (.connected fd)) =>
      if client.connected then none else some fd
  | .acts (.reconnect _ (.connected fd)) | .openOther fd => some fd
  | _ => none

section Steps

variable [DecidableEq Thread]

def World.moved (world : World Thread) (thread : Thread) (point : Point) : World Thread :=
  { world with client := world.client.move thread point }

/-- What `getFd` finds is recorded. -/
def World.acted (world : World Thread) (action : Action Thread) (client : State Thread) :
    World Thread where
  client := client
  foreign := world.foreign
  target := match action with
    | .getFd thread => Function.update world.target thread
        (world.client.getFd.bind world.client.descriptors)
    | _ => world.target

def worldStep (maxFrameBytes : UInt32) (world : World Thread) :
    WorldAction Thread → Option (World Thread)
  | .acts action =>
      if ∀ fd ∈ action.number, world.foreign fd = false then
        (step maxFrameBytes world.client action).map (world.acted action)
      else none
  | .openOther fd =>
      guarded (world.client.descriptors fd = none ∧ world.foreign fd = false)
        { world with foreign := Function.update world.foreign fd true }
  | .closeOther fd =>
      guarded (world.foreign fd = true)
        { world with foreign := Function.update world.foreign fd false }
  | .sendOther thread count =>
      match world.client.points thread with
      | .sending call attempt fd rest =>
          guarded (world.foreign fd = true ∧ 0 < count ∧ count ≤ rest.length)
            (world.moved thread
              (if rest.length ≤ count then .receiving call attempt fd []
              else .sending call attempt fd (rest.drop count)))
      | _ => none
  | .recvOther thread bytes =>
      match world.client.points thread with
      | .receiving call attempt fd got =>
          match readResponse maxFrameBytes got with
          | .more wanted =>
              guarded (world.foreign fd = true ∧ bytes ≠ [] ∧ bytes.length ≤ wanted)
                (world.moved thread (afterRecv maxFrameBytes call attempt fd (got ++ bytes)))
          | _ => none
      | _ => none

end Steps

/-- A `doCall` finds the connection behind its descriptor that was open when `getFd`
returned, or nothing. -/
def OnTarget (world : World Thread) : Prop :=
  ∀ thread fd, (world.client.points thread).using = some fd →
    world.foreign fd = false ∧
      ∀ socket ∈ world.client.descriptors fd, world.target thread = some socket

/-- No descriptor is opened under the number that a `doCall` works with. -/
def KeepsNumber (world : World Thread) (action : WorldAction Thread) : Prop :=
  ∀ fd ∈ action.opens world.client, ∀ thread ∈ world.client.callMutex,
    (world.client.points thread).using ≠ some fd

instance (world : World Thread) (action : WorldAction Thread) :
    Decidable (KeepsNumber world action) :=
  inferInstanceAs (Decidable (∀ fd ∈ action.opens world.client,
    ∀ thread ∈ world.client.callMutex, (world.client.points thread).using ≠ some fd))

structure Kept (world : World Thread) : Prop where
  locked : ∀ thread, (world.client.points thread).calling = true →
    world.client.callMutex = some thread
  apart : ∀ fd, world.foreign fd = true → world.client.descriptors fd = none
  current : ∀ fd, world.client.fd = some fd → (world.client.descriptors fd).isSome
  made : ∀ fd socket, world.client.descriptors fd = some socket →
    socket < world.client.nextSocket
  past : ∀ thread socket, world.target thread = some socket → socket < world.client.nextSocket
  own : OnTarget world

theorem Kept.initially : Kept (initialWorld : World Thread) where
  locked := nofun
  apart := nofun
  current := nofun
  made := nofun
  past := nofun
  own := nofun

/-! ## The descriptor that a step leaves to a call -/

theorem Point.calling_of_using {point : Point} {fd : Fd} (works : point.using = some fd) :
    point.calling = true := by
  cases point <;> cases works <;> rfl

theorem using_after_connect (outcome : ConnectOutcome) (call : Call) (attempt : Attempt) :
    (afterConnect outcome call attempt).using = none := by
  cases outcome <;> rfl

theorem using_after_close (call : Call) (attempt : Attempt) :
    (afterClose call attempt).using = none := by
  unfold afterClose
  split <;> rfl

theorem using_after_recv (maxFrameBytes : UInt32) (call : Call) (attempt : Attempt) (own fd : Fd)
    (got : Bytes) (works : (afterRecv maxFrameBytes call attempt own got).using = some fd) :
    own = fd := by
  unfold afterRecv at works
  split at works
  · exact Option.some.inj works
  · cases works
  · cases works

theorem using_after_send (call : Call) (attempt : Attempt) (own fd : Fd) (rest : Bytes)
    (count : Nat)
    (works : (if rest.length ≤ count then Point.receiving call attempt own []
      else .sending call attempt own (rest.drop count)).using = some fd) : own = fd := by
  split at works <;> exact Option.some.inj works

theorem State.points_do_connect {state next : State Thread} {outcome : ConnectOutcome}
    (done : state.doConnect outcome = some next) : next.points = state.points := by
  cases outcome with
  | socketFailed =>
      cases done
      rfl
  | connectFailed fd | connected fd =>
      obtain ⟨-, rfl⟩ := (guarded_eq_some ..).mp done
      rfl

namespace Kept

variable {world : World Thread}

/-- Only five fields of the client matter. -/
theorem of_same (kept : Kept world) {client : State Thread}
    (same : (client.fd, client.descriptors, client.nextSocket, client.callMutex, client.points) =
      (world.client.fd, world.client.descriptors, world.client.nextSocket,
        world.client.callMutex, world.client.points)) : Kept { world with client := client } := by
  simp only [Prod.mk.injEq] at same
  rcases same with ⟨fd, descriptors, nextSocket, callMutex, points⟩
  constructor
  · rw [points, callMutex]
    exact kept.locked
  · rw [descriptors]
    exact kept.apart
  · rw [fd, descriptors]
    exact kept.current
  · rw [descriptors, nextSocket]
    exact kept.made
  · rw [nextSocket]
    exact kept.past
  · intro thread fd
    rw [points, descriptors]
    exact kept.own thread fd

theorem closed (kept : Kept world) : Kept { world with client := world.client.close } := by
  have fewer : ∀ fd socket, world.client.close.descriptors fd = some socket →
      world.client.descriptors fd = some socket := by
    intro fd socket found
    cases held : world.client.fd with
    | none => simpa [State.close, held] using found
    | some own =>
        by_cases same : fd = own
        · simp [State.close, held, same] at found
        · simpa [State.close, held, same] using found
  refine ⟨kept.locked, ?_, nofun,
    fun fd socket found => kept.made fd socket (fewer fd socket found), kept.past, ?_⟩
  · intro fd foreign
    have gone := kept.apart fd foreign
    cases found : world.client.close.descriptors fd with
    | none => rfl
    | some socket =>
        rw [fewer fd socket found] at gone
        cases gone
  · intro other fd works
    have own := kept.own other fd works
    exact ⟨own.1, fun socket found => own.2 socket (fewer fd socket found)⟩

/-- `doConnect` opens its descriptor under a number that nobody has, or had. -/
theorem connected (kept : Kept world) {outcome : ConnectOutcome} {client : State Thread}
    (native : ∀ fd, outcome = .connected fd → world.foreign fd = false)
    (fresh : ∀ fd, outcome = .connected fd → ∀ other,
      (world.client.points other).using ≠ some fd)
    (done : world.client.doConnect outcome = some client) :
    Kept { world with client := client } := by
  cases outcome with
  | socketFailed =>
      cases done
      exact ⟨kept.locked, kept.apart, nofun, kept.made, kept.past, kept.own⟩
  | connectFailed fd =>
      obtain ⟨-, rfl⟩ := (guarded_eq_some ..).mp done
      exact ⟨kept.locked, kept.apart, nofun, kept.made, kept.past, kept.own⟩
  | connected fd =>
      obtain ⟨free, rfl⟩ := (guarded_eq_some ..).mp done
      refine ⟨kept.locked, ?_, ?_, ?_, ?_, ?_⟩
      · intro other foreign
        have different : other ≠ fd := by
          rintro rfl
          exact Bool.false_ne_true ((native other rfl).symm.trans foreign)
        simpa [different] using kept.apart other foreign
      · intro other held
        cases held
        simp
      · intro other socket found
        by_cases same : other = fd
        · simp only [same, Function.update_self, Option.some.injEq] at found
          exact found ▸ Nat.lt_succ_self _
        · simp only [Function.update_of_ne same] at found
          exact Nat.lt_succ_of_lt (kept.made other socket found)
      · intro other socket recorded
        exact Nat.lt_succ_of_lt (kept.past other socket recorded)
      · intro other used works
        have different : used ≠ fd := by
          rintro rfl
          exact fresh used rfl other works
        have own := kept.own other used works
        refine ⟨own.1, ?_⟩
        intro socket found
        simp only [Function.update_of_ne different] at found
        exact own.2 socket found

/-- Only the thread that holds `m_callMutex` works with a descriptor. -/
theorem fresh (kept : Kept world) {action : WorldAction Thread} (keeps : KeepsNumber world action)
    {fd : Fd} (opens : action.opens world.client = some fd) (other : Thread) :
    (world.client.points other).using ≠ some fd := by
  intro works
  exact keeps fd opens other (kept.locked other (Point.calling_of_using works)) works

end Kept

variable [DecidableEq Thread] {maxFrameBytes : UInt32} {world next : World Thread}
  {thread : Thread} {action : WorldAction Thread}

/-- A thread goes on in its call, with the descriptor that it has or without one. -/
theorem Kept.moved (kept : Kept world) (point : Point)
    (using_ : ∀ fd, point.using = some fd → (world.client.points thread).using = some fd)
    (calling : point.calling = true → (world.client.points thread).calling = true) :
    Kept (world.moved thread point) := by
  have cases_ : ∀ other, (world.moved thread point).client.points other =
      if other = thread then point else world.client.points other := by
    intro other
    simp [World.moved, State.move, Function.update_apply]
  refine ⟨?_, kept.apart, kept.current, kept.made, kept.past, ?_⟩
  · intro other locked
    rw [cases_] at locked
    split at locked
    · rename_i same
      exact kept.locked other (same ▸ calling locked)
    · exact kept.locked other locked
  · intro other fd works
    rw [cases_] at works
    split at works
    · rename_i same
      exact kept.own other fd (same ▸ using_ fd works)
    · exact kept.own other fd works

namespace Kept

/-- A thread goes on in its call without a descriptor. -/
theorem moved_idle (kept : Kept world) {point : Point} (idle : point.using = none)
    (calling : (world.client.points thread).calling = true) : Kept (world.moved thread point) := by
  apply kept.moved point _ (fun _ => calling)
  intro fd works
  rw [idle] at works
  cases works

/-- A thread goes on in its `doCall`. -/
theorem moved_on (kept : Kept world) {own : Fd} {point : Point}
    (works : (world.client.points thread).using = some own)
    (same : ∀ fd, point.using = some fd → own = fd) : Kept (world.moved thread point) := by
  apply kept.moved point _ (fun _ => Point.calling_of_using works)
  intro fd works_
  exact same fd works_ ▸ works

theorem locks (kept : Kept world) (free : world.client.callMutex = none) (point : Point)
    (idle : point.using = none) :
    Kept { world with
      client := State.move { world.client with callMutex := some thread } thread point } := by
  refine ⟨?_, kept.apart, kept.current, kept.made, kept.past, ?_⟩
  · intro other locked
    by_cases same : other = thread
    · exact congrArg some same.symm
    · simp only [State.move, Function.update_of_ne same] at locked
      have held := kept.locked other locked
      rw [free] at held
      cases held
  · intro other fd works
    by_cases same : other = thread
    · simp [State.move, same, idle] at works
    · simp only [State.move, Function.update_of_ne same] at works
      exact kept.own other fd works

theorem unlocks (kept : Kept world) (results : CallId → Option Result)
    (calling : (world.client.points thread).calling = true) :
    Kept { world with
      client := State.move { world.client with callMutex := none, results := results } thread
        .idle } := by
  have held := kept.locked thread calling
  refine ⟨?_, kept.apart, kept.current, kept.made, kept.past, ?_⟩
  · intro other locked
    by_cases same : other = thread
    · simp [State.move, same, Point.calling] at locked
    · simp only [State.move, Function.update_of_ne same] at locked
      have also := kept.locked other locked
      rw [held] at also
      exact absurd (Option.some.inj also).symm same
  · intro other fd works
    by_cases same : other = thread
    · simp [State.move, same, Point.using] at works
    · simp only [State.move, Function.update_of_ne same] at works
      exact kept.own other fd works

/-- The descriptor that `getFd` returns is open, and what is behind it is recorded. -/
theorem gets (kept : Kept world) {call : Call} {attempt : Attempt}
    (here : world.client.points thread = .gettingFd call attempt) :
    Kept (world.acted (.getFd thread) (world.client.move thread (match world.client.getFd with
      | some fd => .sending call attempt fd (encodeRequest call.methodId call.paramsJson)
      | none => .unlockingCall attempt.call (makeTransportError .kSocketFailed)))) := by
  refine ⟨?_, kept.apart, kept.current, kept.made, ?_, ?_⟩
  · intro other locked
    by_cases same : other = thread
    · rw [same]
      exact kept.locked thread (by rw [here]; rfl)
    · simp only [World.acted, State.move, Function.update_of_ne same] at locked
      exact kept.locked other locked
  · intro other socket recorded
    by_cases same : other = thread
    · simp only [World.acted, same, Function.update_self] at recorded
      obtain ⟨fd, -, found⟩ := Option.bind_eq_some_iff.mp recorded
      exact kept.made fd socket found
    · simp only [World.acted, Function.update_of_ne same] at recorded
      exact kept.past other socket recorded
  · intro other fd works
    by_cases same : other = thread
    · simp only [World.acted, State.move, same, Function.update_self] at works ⊢
      cases gotten : world.client.getFd with
      | none =>
          rw [gotten] at works
          cases works
      | some own =>
          rw [gotten] at works
          cases works
          have held : world.client.fd = some fd := by
            unfold State.getFd at gotten
            split at gotten
            · exact gotten
            · cases gotten
          obtain ⟨socket, found⟩ := Option.isSome_iff_exists.mp (kept.current fd held)
          constructor
          · by_contra foreign
            have gone := kept.apart fd (by simpa using foreign)
            rw [gone] at found
            cases found
          · intro other found
            exact found
    · simp only [World.acted, State.move, Function.update_of_ne same] at works ⊢
      exact kept.own other fd works

end Kept

theorem kept_acts {action : Action Thread} {client : State Thread} (kept : Kept world)
    (native : ∀ fd ∈ action.number, world.foreign fd = false)
    (keeps : KeepsNumber world (.acts action))
    (taken : step maxFrameBytes world.client action = some client) :
    Kept (world.acted action client) := by
  cases action with
  | connect thread outcome =>
      obtain ⟨-, ⟨-, rfl⟩ | ⟨apart, done⟩⟩ := step_connect taken
      · exact kept
      · apply kept.connected _ _ done
        · rintro fd rfl
          exact native fd rfl
        · rintro fd rfl
          exact kept.fresh keeps (if_neg apart)
  | disconnect thread =>
      obtain ⟨-, rfl⟩ := (guarded_eq_some ..).mp taken
      exact kept.closed
  | isConnected thread =>
      obtain ⟨-, rfl⟩ := (guarded_eq_some ..).mp taken
      exact kept
  | call thread call =>
      obtain ⟨-, rfl⟩ := (guarded_eq_some ..).mp taken
      exact (kept.moved (.lockingCall _ call) nofun nofun).of_same rfl
  | lockCall thread =>
      obtain ⟨id, call, -, free, rfl⟩ := step_lock_call taken
      exact kept.locks free (.lazyConnecting id call) rfl
  | lazyConnect thread outcome =>
      obtain ⟨id, call, here, ⟨-, rfl⟩ | ⟨apart, middle, done, rfl⟩⟩ := step_lazy_connect taken
      · exact kept.moved (.gettingFd call ⟨id, false⟩) nofun (fun _ => by rw [here]; rfl)
      · have connected : Kept { world with client := middle } := by
          apply kept.connected _ _ done
          · rintro fd rfl
            exact native fd rfl
          · rintro fd rfl
            exact kept.fresh keeps (if_neg apart)
        exact connected.moved_idle (using_after_connect outcome call ⟨id, false⟩)
          (by rw [State.points_do_connect done, here]; rfl)
  | getFd thread =>
      obtain ⟨call, attempt, here, rfl⟩ := step_get_fd taken
      exact kept.gets here
  | send thread count =>
      obtain ⟨call, attempt, fd, rest, socket, here, -, -, -, rfl⟩ := step_send taken
      exact (kept.moved_on (by rw [here]; rfl)
        (fun fd => using_after_send call attempt _ fd rest count)).of_same rfl
  | sendFails thread =>
      obtain ⟨call, attempt, fd, rest, here, rfl⟩ := step_send_fails taken
      exact kept.moved (.closing call attempt) nofun (fun _ => by rw [here]; rfl)
  | recv thread count =>
      obtain ⟨call, attempt, fd, got, socket, wanted, here, -, -, -, -, -, rfl⟩ := step_recv taken
      exact (kept.moved_on (by rw [here]; rfl)
        (fun fd => using_after_recv maxFrameBytes call attempt _ fd _)).of_same rfl
  | recvFails thread =>
      obtain ⟨call, attempt, fd, got, here, rfl⟩ := step_recv_fails taken
      exact kept.moved (.closing call attempt) nofun (fun _ => by rw [here]; rfl)
  | closeFailed thread =>
      obtain ⟨call, attempt, here, rfl⟩ := step_close_failed taken
      have calling : (world.client.points thread).calling = true := by rw [here]; rfl
      exact kept.closed.moved_idle (using_after_close call attempt) calling
  | reconnect thread outcome =>
      obtain ⟨id, call, middle, here, done, rfl⟩ := step_reconnect taken
      have connected : Kept { world with client := middle } := by
        apply kept.connected _ _ done
        · rintro fd rfl
          exact native fd rfl
        · rintro fd rfl
          exact kept.fresh keeps rfl
      exact connected.moved_idle (using_after_connect outcome call ⟨id, true⟩)
        (by rw [State.points_do_connect done, here]; rfl)
  | unlockCall thread =>
      obtain ⟨id, result, here, rfl⟩ := step_unlock_call taken
      exact kept.unlocks _ (by rw [here]; rfl)
  | serverRecv socket count =>
      obtain ⟨got, wanted, -, -, -, -, -, rfl⟩ := step_server_recv taken
      exact kept.of_same rfl
  | handle socket outcome =>
      obtain ⟨attempt, methodId, paramsJson, -, rfl⟩ := step_handle taken
      exact kept.of_same rfl
  | serverSend socket count =>
      obtain ⟨rest, -, -, -, rfl⟩ := step_server_send taken
      exact kept.of_same rfl
  | serverCloses socket =>
      obtain ⟨-, rfl⟩ := step_server_closes taken
      exact kept.of_same rfl

theorem kept_step (kept : Kept world) (keeps : KeepsNumber world action)
    (taken : worldStep maxFrameBytes world action = some next) : Kept next := by
  cases action with
  | acts action =>
      simp only [worldStep] at taken
      split at taken
      · rename_i native
        obtain ⟨client, stepped, rfl⟩ := Option.map_eq_some_iff.mp taken
        exact kept_acts kept native keeps stepped
      · cases taken
  | openOther fd =>
      obtain ⟨⟨free, -⟩, rfl⟩ := (guarded_eq_some ..).mp taken
      refine ⟨kept.locked, ?_, kept.current, kept.made, kept.past, ?_⟩
      · intro other foreign
        by_cases same : other = fd
        · exact same ▸ free
        · simp only [Function.update_of_ne same] at foreign
          exact kept.apart other foreign
      · intro thread used works
        have different : used ≠ fd := by
          rintro rfl
          exact kept.fresh keeps rfl thread works
        simpa [different] using kept.own thread used works
  | closeOther fd =>
      obtain ⟨-, rfl⟩ := (guarded_eq_some ..).mp taken
      refine ⟨kept.locked, ?_, kept.current, kept.made, kept.past, ?_⟩
      · intro other foreign
        by_cases same : other = fd
        · simp [same] at foreign
        · simp only [Function.update_of_ne same] at foreign
          exact kept.apart other foreign
      · intro thread used works
        have own := kept.own thread used works
        by_cases same : used = fd
        · exact ⟨by simp [same], own.2⟩
        · simpa [same] using own
  | sendOther thread count =>
      simp only [worldStep] at taken
      split at taken
      · rename_i call attempt fd rest here
        obtain ⟨-, rfl⟩ := (guarded_eq_some ..).mp taken
        exact kept.moved_on (by rw [here]; rfl)
          (fun used => using_after_send call attempt fd used rest count)
      · cases taken
  | recvOther thread bytes =>
      simp only [worldStep] at taken
      split at taken
      · rename_i call attempt fd got here
        split at taken
        · obtain ⟨-, rfl⟩ := (guarded_eq_some ..).mp taken
          exact kept.moved_on (by rw [here]; rfl)
            (fun used => using_after_recv maxFrameBytes call attempt fd used _)
        · cases taken
      · cases taken

/-- A `doCall` whose number is given out is misled at once. -/
theorem reuse_misleads (kept : Kept world) (reuses : ¬KeepsNumber world action)
    (taken : worldStep maxFrameBytes world action = some next) : ¬OnTarget next := by
  simp only [KeepsNumber, not_forall, not_not] at reuses
  obtain ⟨fd, opens, thread, held, works⟩ := reuses
  have alone : ∀ other, (world.client.points other).calling = true → other = thread := by
    intro other calling
    have also := kept.locked other calling
    rw [Option.mem_def.mp held] at also
    exact (Option.some.inj also).symm
  intro onTarget
  cases action with
  | acts action =>
      simp only [worldStep] at taken
      split at taken
      · obtain ⟨client, stepped, rfl⟩ := Option.map_eq_some_iff.mp taken
        cases action with
        | connect other outcome =>
            obtain ⟨-, ⟨connected, -⟩ | ⟨apart, done⟩⟩ := step_connect stepped
            · cases outcome <;> simp [WorldAction.opens, connected] at opens
            · have same := State.points_do_connect done
              cases outcome with
              | connected opened =>
                  obtain rfl : opened = fd := by simpa [WorldAction.opens, apart] using opens
                  obtain ⟨-, rfl⟩ := (guarded_eq_some ..).mp done
                  have found := (onTarget thread opened works).2 world.client.nextSocket
                    (Function.update_self ..)
                  exact Nat.lt_irrefl _ (kept.past thread _ found)
              | socketFailed | connectFailed => cases opens
        | lazyConnect other outcome =>
            obtain ⟨id, call, here, -⟩ := step_lazy_connect stepped
            obtain rfl := alone other (by rw [here]; rfl)
            rw [here] at works
            cases works
        | reconnect other outcome =>
            obtain ⟨id, call, middle, here, -⟩ := step_reconnect stepped
            obtain rfl := alone other (by rw [here]; rfl)
            rw [here] at works
            cases works
        | _ => cases opens
      · cases taken
  | openOther opened =>
      cases opens
      obtain ⟨-, rfl⟩ := (guarded_eq_some ..).mp taken
      have native := (onTarget thread fd works).1
      simp at native
  | _ => cases opens

/-- Whatever a `doCall` sends to or receives from, in every state of a run, is the
connection that was open when `getFd` returned, exactly if no descriptor is opened under
the number that a `doCall` works with. -/
theorem calls_keep_to_connection_iff (maxFrameBytes : UInt32)
    (actions : List (WorldAction Thread)) (last : World Thread)
    (completed : run (worldStep maxFrameBytes) initialWorld actions = some last) :
    Always (worldStep maxFrameBytes) OnTarget initialWorld actions ↔
      Along (worldStep maxFrameBytes) KeepsNumber initialWorld actions :=
  always_iff_along (fun _ _ _ => kept_step) (fun _ => Kept.own) (fun _ _ _ => reuse_misleads)
    .initially completed

/-- The request of a call is half sent, on connection 0 at descriptor 3. -/
def halfSent : List (WorldAction Bool) :=
  [.acts (.call false ⟨true, 1, []⟩), .acts (.lockCall false),
    .acts (.lazyConnect false (.connected 3)), .acts (.getFd false), .acts (.send false 5)]

/-- The connection is closed meanwhile, and the call fails. -/
theorem disconnected_call_keeps :
    ∃ last, run (worldStep 1024) initialWorld (halfSent ++
        [.acts (.disconnect true), .acts (.sendFails false), .acts (.closeFailed false)]) =
          some last ∧
      Always (worldStep 1024) OnTarget initialWorld (halfSent ++
        [.acts (.disconnect true), .acts (.sendFails false), .acts (.closeFailed false)]) := by
  refine ⟨_, rfl, (calls_keep_to_connection_iff 1024 _ _ rfl).mpr ?_⟩
  decide

/-- Another thread disconnects and connects: the rest of the request goes to the new
connection, which has the number of the old one. -/
theorem request_split_over_connections :
    ∃ before last : World Bool, run (worldStep 1024) initialWorld (halfSent ++
        [.acts (.disconnect true), .acts (.connect true (.connected 3))]) = some before ∧
      before.target false = some 0 ∧ before.client.descriptors 3 = some 1 ∧ ¬OnTarget before ∧
      worldStep 1024 before (.acts (.send false 3)) = some last ∧
      (last.client.links 0).toServer.length = 5 ∧
      (last.client.links 1).toServer.length = 3 := by
  refine ⟨_, _, rfl, rfl, rfl, ?_, rfl, rfl, rfl⟩
  intro onTarget
  exact absurd ((onTarget false 3 rfl).2 1 rfl) (by decide)

end TboxFramework.Ipc.Client
