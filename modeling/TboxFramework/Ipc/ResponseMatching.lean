import TboxFramework.Ipc.ClientDescriptors
import TboxFramework.Ipc.LinkProtocol
import Mathlib.Data.List.Nodup

/-!
# Responses match requests

With one thread a connection that stays open between two calls is quiet, so the
next response on it answers the next request. The length words of the frames are
32 bits wide and nothing checks what is put into them; the matching holds as long
as no payload is too long for its length word.
-/

namespace TboxFramework.Ipc.Client

open Interleaving FrameStream

set_option autoImplicit false

/-- A result that is no transport error answers a request of the call, and the
handler runs at most twice for a `call` and at most once for a `callOnce`. -/
structure Matched (state : State Unit) : Prop where
  answered : ∀ id result, state.results id = some result → 0 ≤ result.1 →
    ∃ entry ∈ state.served, ∃ call, state.issued[id]? = some call ∧ entry.attempt.call = id ∧
      entry.methodId = call.methodId ∧ entry.paramsJson = call.paramsJson ∧ entry.answer = result
  limited : ∀ id call, state.issued[id]? = some call →
    (state.served.filter fun entry => entry.attempt.call = id).length ≤
      if call.once then 1 else 2

/-- Every payload fits its length word. -/
def PayloadsFit (_ : State Unit) : Action Unit → Prop
  | .call _ call => call.paramsJson.length < UInt32.size
  | .handle _ (some responseJson) => responseJson.length < UInt32.size
  | _ => True

instance (state : State Unit) (action : Action Unit) : Decidable (PayloadsFit state action) := by
  unfold PayloadsFit
  split <;> infer_instance

/-! ## What the connections carry -/

/-- Only a `call` has a second attempt. -/
def Permitted (issued : List Call) (attempt : Attempt) : Prop :=
  ∃ call, issued[attempt.call]? = some call ∧ (attempt.retry → call.once = false)

structure Traffic (issued : List Call) (links : SocketId → Link) (served : List Entry) : Prop where
  short : ∀ call ∈ issued, call.paramsJson.length < UInt32.size
  brief : ∀ entry ∈ served, entry.answer.2.length < UInt32.size
  sound : ∀ socket, LinkSound issued (links socket)
  known : ∀ socket, ∀ attempt ∈ (links socket).carried, Permitted issued attempt
  permitted : ∀ entry ∈ served, Permitted issued entry.attempt
  genuine : ∀ entry ∈ served, ∃ call, issued[entry.attempt.call]? = some call ∧
    entry.methodId = call.methodId ∧ entry.paramsJson = call.paramsJson
  unique : ∀ socket other, ∀ attempt ∈ (links socket).carried,
    attempt ∈ (links other).carried → socket = other
  unserved : ∀ socket, ∀ attempt ∈ (links socket).carried, ∀ entry ∈ served,
    entry.attempt ≠ attempt
  distinct : (served.map Entry.attempt).Nodup

theorem issued_snoc {issued : List Call} {id : CallId} {call : Call} (added : Call)
    (known : issued[id]? = some call) : (issued ++ [added])[id]? = some call := by
  rw [List.getElem?_append_left (List.getElem?_eq_some_iff.mp known).1]
  exact known

namespace Traffic

variable {maxFrameBytes : UInt32} {issued : List Call} {links : SocketId → Link}
  {served servedAfter : List Entry} {call : Call} {attempt : Attempt} {socket : SocketId}

theorem initially : Traffic [] (fun _ => .fresh) [] := by
  constructor <;> first | (intro _; exact Or.inl rfl) | exact List.nodup_nil | nofun

theorem of_call (traffic : Traffic issued links served)
    (brief : call.paramsJson.length < UInt32.size) : Traffic (issued ++ [call]) links served where
  short := by
    intro other member
    rw [List.mem_append, List.mem_singleton] at member
    rcases member with old | rfl
    · exact traffic.short other old
    · exact brief
  brief := traffic.brief
  sound := by
    intro socket
    have sound := traffic.sound socket
    unfold LinkSound at sound ⊢
    split
    · rename_i got here
      rw [here] at sound
      apply sound.imp_right
      rintro ⟨attempt, own, sent, known, rest⟩
      exact ⟨attempt, own, sent, issued_snoc call known, rest⟩
    · rename_i here
      rw [here] at sound
      obtain ⟨nothing, own, known, same⟩ := sound
      exact ⟨nothing, own, issued_snoc call known, same⟩
    · rename_i here
      rw [here] at sound
      exact sound
    · trivial
  known := by
    intro socket attempt member
    obtain ⟨own, known, once⟩ := traffic.known socket attempt member
    exact ⟨own, issued_snoc call known, once⟩
  permitted := by
    intro entry member
    obtain ⟨own, known, once⟩ := traffic.permitted entry member
    exact ⟨own, issued_snoc call known, once⟩
  genuine := by
    intro entry member
    obtain ⟨own, known, same⟩ := traffic.genuine entry member
    exact ⟨own, issued_snoc call known, same⟩
  unique := traffic.unique
  unserved := traffic.unserved
  distinct := traffic.distinct

/-- A change of one connection that brings no attempt to it. -/
theorem of_less (traffic : Traffic issued links served) {link : Link}
    (sound : LinkSound issued link)
    (less : ∀ attempt ∈ link.carried, attempt ∈ (links socket).carried) :
    Traffic issued (Function.update links socket link) served := by
  have older : ∀ other, ∀ attempt ∈ (Function.update links socket link other).carried,
      attempt ∈ (links other).carried := by
    intro other attempt member
    by_cases same : other = socket
    · rw [same, Function.update_self] at member
      exact same ▸ less attempt member
    · rwa [Function.update_of_ne same] at member
  exact {
    short := traffic.short
    brief := traffic.brief
    sound := by
      intro other
      by_cases same : other = socket
      · rw [same, Function.update_self]
        exact sound
      · rw [Function.update_of_ne same]
        exact traffic.sound other
    known := fun other attempt member => traffic.known other attempt (older other attempt member)
    permitted := traffic.permitted
    genuine := traffic.genuine
    unique := fun other third attempt left right =>
      traffic.unique other third attempt (older other attempt left) (older third attempt right)
    unserved := fun other attempt member =>
      traffic.unserved other attempt (older other attempt member)
    distinct := traffic.distinct }

theorem of_fresh (traffic : Traffic issued links served) (socket : SocketId) :
    Traffic issued (Function.update links socket .fresh) served :=
  traffic.of_less (Or.inl rfl) nofun

theorem of_server (traffic : Traffic issued links served) {link : Link}
    (taken : ServerStep maxFrameBytes served (links socket) servedAfter link)
    (brief : ∀ entry ∈ servedAfter, entry.answer.2.length < UInt32.size) :
    Traffic issued (Function.update links socket link) servedAfter := by
  have sound := link_sound_step traffic.short (traffic.sound socket) taken
  have rest := traffic.of_less sound (fun attempt => carried_step taken)
  rcases served_step (traffic.sound socket) taken with
    same | ⟨entry, call, grown, member, gone, known, method, params⟩
  · rw [same]
    exact rest
  · have fresh := traffic.unserved socket entry.attempt member
    subst grown
    exact {
      short := rest.short
      brief := brief
      sound := rest.sound
      known := rest.known
      permitted := by
        intro other listed
        rw [List.mem_append, List.mem_singleton] at listed
        rcases listed with old | rfl
        · exact traffic.permitted other old
        · exact traffic.known socket _ member
      genuine := by
        intro other listed
        rw [List.mem_append, List.mem_singleton] at listed
        rcases listed with old | rfl
        · exact traffic.genuine other old
        · exact ⟨call, known, method, params⟩
      unique := rest.unique
      unserved := by
        intro other attempt carried third listed
        rw [List.mem_append, List.mem_singleton] at listed
        rcases listed with old | rfl
        · exact rest.unserved other attempt carried third old
        · -- the attempt that was served has left the only connection that had it
          rintro rfl
          by_cases same : other = socket
          · rw [same, Function.update_self, gone] at carried
            cases carried
          · rw [Function.update_of_ne same] at carried
            exact same (traffic.unique other socket _ carried member)
      distinct := by
        rw [List.map_append, List.nodup_append]
        refine ⟨traffic.distinct, List.nodup_singleton _, ?_⟩
        intro attempt old last new same
        obtain ⟨third, listed, rfl⟩ := List.mem_map.mp old
        cases List.mem_singleton.mp new
        exact fresh third listed same }

/-- More bytes of the one request that the connection is taking. -/
theorem of_send (traffic : Traffic issued links served) {sent part : Bytes}
    (known : issued[attempt.call]? = some call) (once : attempt.retry → call.once = false)
    (inside : sent ++ part <+: requestFrame call)
    (asked : Asked (links socket) attempt sent)
    (lone : ∀ other, attempt ∈ (links other).carried → other = socket)
    (fresh : ∀ entry ∈ served, entry.attempt ≠ attempt) :
    Traffic issued (Function.update links socket
      { links socket with toServer := (links socket).toServer ++ tagged attempt part }) served := by
  have grows : ∀ other, ∀ carried ∈ (Function.update links socket { links socket with
        toServer := (links socket).toServer ++ tagged attempt part } other).carried,
      carried ∈ (links other).carried ∨ (carried = attempt ∧ other = socket) := by
    intro other carried member
    by_cases same : other = socket
    · rw [same, Function.update_self] at member
      exact (carried_send member).imp (fun old => same ▸ old) (fun new => ⟨new, same⟩)
    · rw [Function.update_of_ne same] at member
      exact Or.inl member
  exact {
    short := traffic.short
    brief := traffic.brief
    sound := by
      intro other
      by_cases same : other = socket
      · rw [same, Function.update_self]
        exact link_sound_of_asked known inside (asked_send asked)
      · rw [Function.update_of_ne same]
        exact traffic.sound other
    known := by
      intro other carried member
      rcases grows other carried member with old | ⟨rfl, -⟩
      · exact traffic.known other carried old
      · exact ⟨call, known, once⟩
    permitted := traffic.permitted
    genuine := traffic.genuine
    unique := by
      intro other third carried left right
      rcases grows other carried left with before | ⟨rfl, rfl⟩ <;>
        rcases grows third _ right with after | ⟨same, rfl⟩
      · exact traffic.unique other third carried before after
      · exact lone other (same ▸ before)
      · exact (lone third after).symm
      · rfl
    unserved := by
      intro other carried member
      rcases grows other carried member with old | ⟨rfl, -⟩
      · exact traffic.unserved other carried old
      · exact fresh
    distinct := traffic.distinct }

end Traffic

/-! ## What the client relies on -/

/-- Some byte of the attempt has been sent. -/
def Used (state : State Unit) (attempt : Attempt) : Prop :=
  (∃ socket, attempt ∈ (state.links socket).carried) ∨
    ∃ entry ∈ state.served, entry.attempt = attempt

/-- The attempts that the call under way has not begun. -/
def Point.unstarted : Point → Attempt → Prop
  | .lockingCall id _, attempt | .lazyConnecting id _, attempt => attempt.call = id
  | .gettingFd _ current, attempt =>
      attempt.call = current.call ∧ (current.retry → attempt.retry)
  | .sending _ current _ _, attempt | .receiving _ current _ _, attempt
  | .closing _ current, attempt =>
      attempt.call = current.call ∧ attempt.retry ∧ current.retry = false
  | .reconnecting id _, attempt => attempt = ⟨id, true⟩
  | .idle, _ | .unlockingCall _ _, _ => False

/-- The descriptor that `doCall` was given. -/
def Point.usedFd : Point → Option Fd
  | .sending _ _ fd _ | .receiving _ _ fd _ => some fd
  | _ => none

/-- The call under way is the one that was issued. -/
def PointIssued (issued : List Call) : Point → Prop
  | .lockingCall id call | .lazyConnecting id call => issued[id]? = some call
  | .gettingFd call attempt | .sending call attempt _ _ | .receiving call attempt _ _
  | .closing call attempt =>
      issued[attempt.call]? = some call ∧ (attempt.retry → call.once = false)
  | .reconnecting id call => issued[id]? = some call ∧ call.once = false
  | .idle | .unlockingCall _ _ => True

def HandlerAnswered (served : List Entry) (id : CallId) (result : Result) : Prop :=
  0 ≤ result.1 → ∃ entry ∈ served, entry.attempt.call = id ∧ entry.answer = result

/-- A connection that is open between two exchanges is quiet. -/
def Rested (state : State Unit) : Prop :=
  ∀ fd socket, state.descriptors fd = some socket → Quiet (state.links socket)

/-- The attempt has bytes on the connection of this descriptor only. -/
def Lone (state : State Unit) (attempt : Attempt) (fd : Fd) : Prop :=
  (∀ socket, attempt ∈ (state.links socket).carried → state.descriptors fd = some socket) ∧
    ∀ entry ∈ state.served, entry.attempt ≠ attempt

def PointSound (state : State Unit) : Point → Prop
  | .idle | .lockingCall _ _ | .lazyConnecting _ _ | .gettingFd _ _ => Rested state
  | .unlockingCall id result => Rested state ∧ HandlerAnswered state.served id result
  | .sending call attempt fd rest => Lone state attempt fd ∧ rest ≠ [] ∧
      ∃ sent, requestFrame call = sent ++ rest ∧
        ∀ socket, state.descriptors fd = some socket → Asked (state.links socket) attempt sent
  | .receiving call attempt fd got => ∀ socket, state.descriptors fd = some socket →
      Awaiting state.served (state.links socket) call attempt got
  | .closing _ _ => True
  | .reconnecting _ _ => state.fd = none

structure Sound (state : State Unit) : Prop where
  tied : Tied state
  traffic : Traffic state.issued state.links state.served
  unstarted : ∀ attempt, (state.points ()).unstarted attempt → ¬Used state attempt
  issued : PointIssued state.issued (state.points ())
  fd : ∀ fd, (state.points ()).usedFd = some fd → state.fd = some fd
  point : PointSound state (state.points ())
  results : ∀ id result, state.results id = some result → HandlerAnswered state.served id result

theorem initially_sound : Sound initial where
  tied := Tied.initially
  traffic := Traffic.initially
  unstarted := nofun
  issued := trivial
  fd := nofun
  point := by simp [initial, PointSound, Rested]
  results := nofun

theorem HandlerAnswered.mono {served more : List Entry} {id : CallId} {result : Result}
    (answered : HandlerAnswered served id result) (grows : ∀ entry ∈ served, entry ∈ more) :
    HandlerAnswered more id result := by
  intro success
  obtain ⟨entry, member, same⟩ := answered success
  exact ⟨entry, grows entry member, same⟩

theorem transport_error_unanswered (served : List Entry) (id : CallId) :
    HandlerAnswered served id (makeTransportError .kSocketFailed) ∧
      HandlerAnswered served id (makeTransportError .kTransportFailed) :=
  ⟨fun success => absurd success (by decide), fun success => absurd success (by decide)⟩

theorem move_same {state : State Unit} {point : Point} (here : state.points () = point) :
    state.move () point = state := by
  rw [State.move, ← here, Function.update_eq_self]

namespace Sound

variable {state next : State Unit} {maxFrameBytes : UInt32}

/-- The attempts of a call that is not issued yet are unused. -/
theorem future_unused (sound : Sound state) {attempt : Attempt}
    (future : state.issued.length ≤ attempt.call) : ¬Used state attempt := by
  have unknown : ¬Permitted state.issued attempt := by
    rintro ⟨call, known, -⟩
    have inside := (List.getElem?_eq_some_iff.mp known).1
    omega
  rintro (⟨socket, member⟩ | ⟨entry, member, rfl⟩)
  · exact unknown (sound.traffic.known socket attempt member)
  · exact unknown (sound.traffic.permitted entry member)

/-- A step that looks at no connection and moves to another point. -/
theorem move (sound : Sound state) (point : Point) (mutex : Option Unit)
    (unstarted : ∀ attempt, point.unstarted attempt → (state.points ()).unstarted attempt)
    (issued : PointIssued state.issued point)
    (fd : ∀ fd, point.usedFd = some fd → state.fd = some fd)
    (facts : PointSound state point) :
    Sound (State.move { state with callMutex := mutex } () point) where
  tied := sound.tied.of_same rfl
  traffic := sound.traffic
  unstarted := fun attempt new => sound.unstarted attempt (unstarted attempt new)
  issued := issued
  fd := fd
  point := by cases point <;> exact facts
  results := sound.results

/-- What `doConnect` changes when the client has no descriptor. -/
theorem do_connect_changes (sound : Sound state) (closed : state.fd = none)
    {outcome : ConnectOutcome} (done : state.doConnect outcome = some next) :
    next.points = state.points ∧ next.issued = state.issued ∧ next.served = state.served ∧
      next.results = state.results ∧
      (next.links = state.links ∨
        ∃ socket, next.links = Function.update state.links socket .fresh) ∧
      Rested next := by
  have nothing := sound.tied.none_open closed
  cases outcome with
  | socketFailed =>
      cases done
      exact ⟨rfl, rfl, rfl, rfl, Or.inl rfl, fun fd socket found => by simp [nothing] at found⟩
  | connectFailed fd =>
      obtain ⟨-, rfl⟩ := (guarded_eq_some ..).mp done
      exact ⟨rfl, rfl, rfl, rfl, Or.inl rfl, fun fd socket found => by simp [nothing] at found⟩
  | connected fd =>
      obtain ⟨-, rfl⟩ := (guarded_eq_some ..).mp done
      refine ⟨rfl, rfl, rfl, rfl, Or.inr ⟨_, rfl⟩, ?_⟩
      intro other socket found
      by_cases same : other = fd
      · simp only [same, Function.update_self, Option.some.injEq] at found
        rw [← found]
        refine ⟨?_, Or.inr ⟨?_, ?_⟩⟩ <;> simp [Link.fresh]
      · simp [same, nothing] at found

/-- A section that calls `doConnect` and leaves for a point outside `doCall`. -/
theorem connect (sound : Sound state) (closed : state.fd = none) {outcome : ConnectOutcome}
    (done : state.doConnect outcome = some next) (point : Point)
    (unstarted : ∀ attempt, point.unstarted attempt → (state.points ()).unstarted attempt)
    (issued : PointIssued state.issued point) (apart : point.usedFd = none)
    (resting : ∀ other, Rested other → PointSound other point) : Sound (next.move () point) := by
  obtain ⟨-, sameIssued, sameServed, sameResults, links, rested⟩ :=
    sound.do_connect_changes closed done
  have traffic : Traffic next.issued next.links next.served := by
    rw [sameIssued, sameServed]
    rcases links with same | ⟨socket, fresh⟩
    · exact same ▸ sound.traffic
    · exact fresh ▸ sound.traffic.of_fresh socket
  have used : ∀ attempt, Used next attempt → Used state attempt := by
    rintro attempt (⟨socket, member⟩ | served)
    · rcases links with same | ⟨renewed, fresh⟩
      · exact Or.inl ⟨socket, same ▸ member⟩
      · rw [fresh] at member
        by_cases same : socket = renewed
        · rw [same, Function.update_self] at member
          cases member
        · rw [Function.update_of_ne same] at member
          exact Or.inl ⟨socket, member⟩
    · exact Or.inr (sameServed ▸ served)
  exact {
    tied := (sound.tied.do_connect closed done).of_same rfl
    traffic := traffic
    unstarted := fun attempt new before =>
      sound.unstarted attempt (unstarted attempt new) (used attempt before)
    issued := by
      show PointIssued next.issued point
      rw [sameIssued]
      exact issued
    fd := by
      intro fd uses
      exact absurd (apart.symm.trans uses) nofun
    point := by
      show PointSound (next.move () point) point
      exact resting _ rested
    results := by
      intro id result found
      show HandlerAnswered next.served id result
      rw [sameServed]
      exact sound.results id result (sameResults ▸ found) }

theorem connect_call (sound : Sound state) (closed : state.fd = none) {outcome : ConnectOutcome}
    (done : state.doConnect outcome = some next) (call : Call) (attempt : Attempt)
    (unstarted : ∀ other, (Point.gettingFd call attempt).unstarted other →
      (state.points ()).unstarted other)
    (issued : PointIssued state.issued (.gettingFd call attempt)) :
    Sound (next.move () (afterConnect outcome call attempt)) := by
  rcases after_connect_cases outcome call attempt with same | same
  · rw [same]
    exact sound.connect closed done _ unstarted issued rfl (fun _ rested => rested)
  · rw [same]
    exact sound.connect closed done _ nofun trivial rfl
      (fun _ rested => ⟨rested, (transport_error_unanswered ..).1⟩)

/-- A section that closes the descriptor. -/
theorem close (sound : Sound state) (point : Point)
    (unstarted : ∀ attempt, point.unstarted attempt → (state.points ()).unstarted attempt)
    (issued : PointIssued state.issued point) (apart : point.usedFd = none)
    (resting : ∀ other : State Unit, other.fd = none → Rested other → PointSound other point) :
    Sound (state.close.move () point) where
  tied := sound.tied.close.of_same rfl
  traffic := sound.traffic
  unstarted := fun attempt new before =>
    sound.unstarted attempt (unstarted attempt new) before
  issued := issued
  fd := by
    intro fd uses
    exact absurd (apart.symm.trans uses) nofun
  point := by
    apply resting _ rfl
    intro fd socket found
    have closed := sound.tied.close.none_open rfl fd
    exact absurd (closed.symm.trans found) nofun
  results := sound.results

theorem send (sound : Sound state) {call : Call} {attempt : Attempt} {fd : Fd} {rest : Bytes}
    {socket : SocketId} {count : Nat} (here : state.points () = .sending call attempt fd rest)
    (opened : state.descriptors fd = some socket) :
    Sound ((state.setLink socket { state.links socket with
        toServer := (state.links socket).toServer ++ tagged attempt (rest.take count) }).move ()
      (if rest.length ≤ count then .receiving call attempt fd []
      else .sending call attempt fd (rest.drop count))) := by
  have facts := sound.point
  have issued := sound.issued
  rw [here] at facts issued
  obtain ⟨⟨alone, fresh⟩, -, sent, parts, asking⟩ := facts
  have asked := asking socket opened
  have inside : sent ++ rest.take count <+: requestFrame call := by
    rw [parts]
    exact (List.prefix_append_right_inj sent).mpr (List.take_prefix count rest)
  have lone : ∀ other, attempt ∈ (state.links other).carried → other = socket := by
    intro other member
    exact Option.some.inj ((alone other member).symm.trans opened)
  have only : ∀ other, state.descriptors fd = some other → other = socket :=
    fun other found => Option.some.inj (found.symm.trans opened)
  have asked' : Asked { state.links socket with
      toServer := (state.links socket).toServer ++ tagged attempt (rest.take count) } attempt
      (sent ++ rest.take count) := asked_send asked
  constructor
  · exact sound.tied.of_same rfl
  · exact sound.traffic.of_send issued.1 issued.2 inside asked lone fresh
  · intro other new used
    have before : (state.points ()).unstarted other := by
      rw [here]
      simp only [State.move, Function.update_self] at new
      split at new <;> exact new
    have later : other.retry = true ∧ attempt.retry = false := by
      rw [here] at before
      exact before.2
    apply sound.unstarted other before
    rcases used with ⟨third, member⟩ | served
    · by_cases same : third = socket
      · simp only [State.move, State.setLink, same, Function.update_self] at member
        rcases carried_send member with old | rfl
        · exact Or.inl ⟨socket, old⟩
        · exact absurd later.1 (by simp [later.2])
      · simp only [State.move, State.setLink, Function.update_of_ne same] at member
        exact Or.inl ⟨third, member⟩
    · exact Or.inr served
  · simp only [State.move, Function.update_self]
    split <;> exact issued
  · intro other uses
    apply sound.fd other
    rw [here]
    simp only [State.move, Function.update_self] at uses
    split at uses <;> exact uses
  · simp only [State.move, State.setLink, Function.update_self]
    split
    · rename_i all
      intro other found
      rw [only other found]
      simp only [Function.update_self]
      refine Or.inl ⟨rfl, ?_⟩
      rw [List.take_of_length_le all, ← parts] at asked'
      rw [List.take_of_length_le all]
      exact asked'
    · rename_i left
      refine ⟨⟨?_, fresh⟩, ?_, sent ++ rest.take count, ?_, ?_⟩
      · intro other member
        by_cases same : other = socket
        · rw [same]
          exact opened
        · simp only [Function.update_of_ne same] at member
          exact alone other member
      · rw [Ne, List.drop_eq_nil_iff]
        exact left
      · rw [List.append_assoc, List.take_append_drop, parts]
      · intro other found
        rw [only other found]
        simp only [Function.update_self]
        exact asked'
  · exact sound.results

theorem recv (sound : Sound state) {call : Call} {attempt : Attempt} {fd : Fd} {got : Bytes}
    {socket : SocketId} {count : Nat} (here : state.points () = .receiving call attempt fd got)
    (opened : state.descriptors fd = some socket) (positive : 0 < count)
    (there : count ≤ (state.links socket).toClient.length) :
    Sound ((state.setLink socket { state.links socket with
        toClient := (state.links socket).toClient.drop count }).move ()
      (afterRecv maxFrameBytes call attempt fd
        (got ++ (state.links socket).toClient.take count))) := by
  have facts := sound.point
  have issued := sound.issued
  rw [here] at facts issued
  have arrived : (state.links socket).toClient ≠ [] := by
    intro nothing
    rw [nothing, List.length_nil] at there
    omega
  have answered := answered_recv count (answered_of_arrival (facts socket opened) arrived)
  have only : ∀ other, state.descriptors fd = some other → other = socket :=
    fun other found => Option.some.inj (found.symm.trans opened)
  have traffic : Traffic state.issued (Function.update state.links socket
      { state.links socket with toClient := (state.links socket).toClient.drop count })
      state.served :=
    sound.traffic.of_less (sound.traffic.sound socket) (fun _ member => member)
  have used : ∀ other, Used (state.setLink socket { state.links socket with
      toClient := (state.links socket).toClient.drop count }) other → Used state other := by
    rintro other (⟨third, member⟩ | served)
    · refine Or.inl ⟨third, ?_⟩
      by_cases same : third = socket
      · simp only [State.setLink, same, Function.update_self] at member
        exact same ▸ member
      · simp only [State.setLink, Function.update_of_ne same] at member
        exact member
    · exact Or.inr served
  have base : ∀ point : Point,
      (∀ other, point.unstarted other → (state.points ()).unstarted other) →
      PointIssued state.issued point → (∀ other, point.usedFd = some other → other = fd) →
      PointSound ((state.setLink socket { state.links socket with
        toClient := (state.links socket).toClient.drop count }).move () point) point →
      Sound ((state.setLink socket { state.links socket with
        toClient := (state.links socket).toClient.drop count }).move () point) := by
    intro point unstarted known uses holds
    have current : state.fd = some fd := sound.fd fd (by rw [here]; rfl)
    exact {
      tied := sound.tied.of_same rfl
      traffic := traffic
      unstarted := fun other new before =>
        sound.unstarted other (unstarted other new) (used other before)
      issued := known
      fd := fun other uses_it => by rw [uses other uses_it]; exact current
      point := holds
      results := sound.results }
  cases reading : readResponse maxFrameBytes (got ++ (state.links socket).toClient.take count) with
  | more wanted =>
      simp only [afterRecv, reading]
      refine base _ (by rw [here]; exact fun _ new => new) issued ?_ ?_
      · intro other same
        exact (Option.some.inj same).symm
      · intro other found
        rw [only other found]
        simp only [State.move, State.setLink, Function.update_self]
        exact Or.inr (Or.inr answered)
  | overLimit =>
      simp only [afterRecv, reading]
      exact base _ (by rw [here]; exact fun _ new => new) issued nofun trivial
  | complete head body =>
      simp only [afterRecv, reading]
      obtain ⟨quiet, entry, member, mine, answer⟩ :=
        answered_complete sound.traffic.brief answered reading
      refine base _ nofun trivial nofun ⟨?_, ?_⟩
      · intro other third found
        have current := sound.tied.current other third found
        rw [sound.fd fd (by rw [here]; rfl), Option.some.injEq] at current
        subst current
        rw [only third found]
        simp only [State.move, State.setLink, Function.update_self]
        exact quiet
      · exact fun _ => ⟨entry, member, by rw [mine], answer⟩

/-- A step of the server on one of its connections. -/
theorem serve (sound : Sound state) {socket : SocketId} {servedAfter : List Entry} {link : Link}
    (taken : ServerStep maxFrameBytes state.served (state.links socket) servedAfter link)
    (brief : ∀ entry ∈ servedAfter, entry.answer.2.length < UInt32.size) :
    Sound { state with
      links := Function.update state.links socket link, served := servedAfter } := by
  have traffic := sound.traffic.of_server taken brief
  have grows : ∀ entry ∈ state.served, entry ∈ servedAfter := by
    intro entry member
    rcases served_step (sound.traffic.sound socket) taken with same | ⟨last, _, grown, -⟩
    · exact same ▸ member
    · rw [grown]
      exact List.mem_append_left _ member
  have carried : ∀ other, ∀ attempt ∈ (Function.update state.links socket link other).carried,
      attempt ∈ (state.links other).carried := by
    intro other attempt member
    by_cases same : other = socket
    · rw [same, Function.update_self] at member
      exact same ▸ carried_step taken member
    · rwa [Function.update_of_ne same] at member
  have newly : ∀ entry ∈ servedAfter, entry ∈ state.served ∨
      (entry.attempt ∈ (state.links socket).carried ∧ servedAfter ≠ state.served) := by
    intro entry member
    rcases served_step (sound.traffic.sound socket) taken with same | ⟨last, _, grown, had, -⟩
    · exact Or.inl (same ▸ member)
    · rw [grown, List.mem_append, List.mem_singleton] at member
      rcases member with old | rfl
      · exact Or.inl old
      · refine Or.inr ⟨had, ?_⟩
        rw [grown]
        exact fun same => absurd (congrArg List.length same) (by simp)
  have rested : Rested state → Rested { state with
      links := Function.update state.links socket link, served := servedAfter } := by
    intro rests fd other found
    by_cases same : other = socket
    · simp only [same, Function.update_self]
      exact quiet_step (same ▸ rests fd other found) taken
    · simp only [Function.update_of_ne same]
      exact rests fd other found
  constructor
  · exact sound.tied.of_same rfl
  · exact traffic
  · rintro attempt new (⟨other, member⟩ | ⟨entry, member, rfl⟩)
    · exact sound.unstarted attempt new (Or.inl ⟨other, carried other attempt member⟩)
    · rcases newly entry member with old | ⟨had, -⟩
      · exact sound.unstarted _ new (Or.inr ⟨entry, old, rfl⟩)
      · exact sound.unstarted _ new (Or.inl ⟨socket, had⟩)
  · exact sound.issued
  · exact sound.fd
  · have facts := sound.point
    have issued := sound.issued
    show PointSound _ (state.points ())
    cases here : state.points () with
    | idle => rw [here] at facts; exact rested facts
    | lockingCall id call => rw [here] at facts; exact rested facts
    | lazyConnecting id call => rw [here] at facts; exact rested facts
    | gettingFd call attempt => rw [here] at facts; exact rested facts
    | unlockingCall id result =>
        rw [here] at facts
        exact ⟨rested facts.1, facts.2.mono grows⟩
    | closing call attempt => trivial
    | reconnecting id call => rw [here] at facts; exact facts
    | sending call attempt fd rest =>
        rw [here] at facts issued
        obtain ⟨⟨alone, fresh⟩, left, sent, parts, asking⟩ := facts
        have short := sound.traffic.short call (List.mem_of_getElem? issued.1)
        have inside : sent <+: requestFrame call := ⟨rest, parts.symm⟩
        have partly : sent ≠ requestFrame call := by
          intro same
          rw [parts] at same
          exact left (List.append_right_eq_self.mp same.symm)
        refine ⟨⟨fun other member => alone other (carried other _ member), ?_⟩, left, sent, parts,
          ?_⟩
        · rintro entry member rfl
          rcases newly entry member with old | ⟨had, grew⟩
          · exact fresh entry old rfl
          · exact grew (asked_keeps_served (asking socket (alone socket had)) taken)
        · intro other found
          by_cases same : other = socket
          · simp only [same, Function.update_self]
            exact asked_step short inside partly (same ▸ asking other found) taken
          · simp only [Function.update_of_ne same]
            exact asking other found
    | receiving call attempt fd got =>
        rw [here] at facts issued
        have short := sound.traffic.short call (List.mem_of_getElem? issued.1)
        intro other found
        by_cases same : other = socket
        · simp only [same, Function.update_self]
          exact awaiting_step short (sound.traffic.sound socket) (same ▸ facts other found) taken
        · simp only [Function.update_of_ne same]
          exact (facts other found).mono grows
  · exact fun id result found => (sound.results id result found).mono grows

end Sound

/-! ## Runs -/

variable {maxFrameBytes : UInt32} {state next : State Unit} {action : Action Unit}

theorem sound_server_step (sound : Sound state) (fits : PayloadsFit state action)
    (server : (∃ socket count, action = .serverRecv socket count) ∨
      (∃ socket outcome, action = .handle socket outcome) ∨
      (∃ socket count, action = .serverSend socket count) ∨
      ∃ socket, action = .serverCloses socket)
    (taken : step maxFrameBytes state action = some next) : Sound next := by
  have brief : ∀ entry ∈ next.served, entry.answer.2.length < UInt32.size := by
    rcases server with ⟨socket, count, rfl⟩ | ⟨socket, outcome, rfl⟩ | ⟨socket, count, rfl⟩ |
      ⟨socket, rfl⟩
    · obtain ⟨got, wanted, -, -, -, -, -, rfl⟩ := step_server_recv taken
      exact sound.traffic.brief
    · obtain ⟨attempt, methodId, paramsJson, -, rfl⟩ := step_handle taken
      intro entry member
      rcases List.mem_append.mp member with old | new
      · exact sound.traffic.brief entry old
      · cases List.mem_singleton.mp new
        cases outcome with
        | none => exact Nat.two_pow_pos 32
        | some responseJson => exact fits
    · obtain ⟨rest, -, -, -, rfl⟩ := step_server_send taken
      exact sound.traffic.brief
    · obtain ⟨-, rfl⟩ := step_server_closes taken
      exact sound.traffic.brief
  obtain ⟨socket, servedAfter, link, stepped, rfl⟩ := server_step server taken
  exact sound.serve stepped brief

theorem sound_step (sound : Sound state) (fits : PayloadsFit state action)
    (taken : step maxFrameBytes state action = some next) : Sound next := by
  have closed : ¬state.connected = true → state.fd = none := by
    intro apart
    rw [sound.tied.connected] at apart
    simpa using apart
  cases action with
  | connect thread outcome =>
      obtain ⟨here, ⟨-, rfl⟩ | ⟨apart, done⟩⟩ := step_connect taken
      · exact sound
      · have stays : next.points () = .idle := by
          rw [(sound.do_connect_changes (closed apart) done).1]
          exact here
        rw [← move_same stays]
        exact sound.connect (closed apart) done .idle nofun trivial rfl (fun _ rested => rested)
  | disconnect thread =>
      obtain ⟨here, rfl⟩ := (guarded_eq_some ..).mp taken
      have stays : state.close.points () = .idle := here
      rw [← move_same stays]
      exact sound.close .idle nofun trivial rfl (fun _ _ rested => rested)
  | isConnected thread =>
      obtain ⟨-, rfl⟩ := (guarded_eq_some ..).mp taken
      exact sound
  | call thread call =>
      obtain ⟨here, rfl⟩ := (guarded_eq_some ..).mp taken
      have rested := sound.point
      rw [here] at rested
      exact {
        tied := sound.tied.of_same rfl
        traffic := sound.traffic.of_call fits
        unstarted := fun attempt new => sound.future_unused (Nat.le_of_eq new.symm)
        issued := List.getElem?_concat_length
        fd := nofun
        point := rested
        results := sound.results }
  | lockCall thread =>
      obtain ⟨id, call, here, -, rfl⟩ := step_lock_call taken
      have issued := sound.issued
      have facts := sound.point
      rw [here] at issued facts
      exact sound.move (.lazyConnecting id call) (some ())
        (by rw [here]; exact fun _ new => new) issued nofun facts
  | lazyConnect thread outcome =>
      obtain ⟨id, call, here, ⟨-, rfl⟩ | ⟨apart, middle, done, rfl⟩⟩ := step_lazy_connect taken
      · have issued := sound.issued
        have facts := sound.point
        rw [here] at issued facts
        exact sound.move (.gettingFd call ⟨id, false⟩) state.callMutex
          (by rw [here]; exact fun _ new => new.1) ⟨issued, nofun⟩ nofun facts
      · have issued := sound.issued
        rw [here] at issued
        refine sound.connect_call (closed apart) done call ⟨id, false⟩ ?_ ⟨issued, nofun⟩
        rw [here]
        exact fun _ new => new.1
  | getFd thread =>
      obtain ⟨call, attempt, here, rfl⟩ := step_get_fd taken
      have issued := sound.issued
      have facts := sound.point
      rw [here] at issued facts
      split
      · rename_i fd found
        have current : state.fd = some fd := by
          unfold State.getFd at found
          split at found
          · exact found
          · cases found
        have unused : ¬Used state attempt :=
          sound.unstarted attempt (by rw [here]; exact ⟨rfl, fun retry => retry⟩)
        refine sound.move (.sending call attempt fd (requestFrame call)) state.callMutex ?_ issued
          ?_ ⟨⟨?_, ?_⟩, ?_, [], rfl, ?_⟩
        · rw [here]
          exact fun _ new => ⟨new.1, fun _ => new.2.1⟩
        · intro other same
          cases same
          exact current
        · exact fun socket member => absurd (Or.inl ⟨socket, member⟩) unused
        · exact fun entry member same => unused (Or.inr ⟨entry, member, same⟩)
        · exact List.ne_nil_of_length_pos (by rw [requestFrame, encodeRequest, frame_length]; omega)
        · exact fun socket opened => quiet_is_asked (facts fd socket opened) attempt
      · exact sound.move _ state.callMutex nofun trivial nofun
          ⟨facts, (transport_error_unanswered ..).1⟩
  | send thread count =>
      obtain ⟨call, attempt, fd, rest, socket, here, opened, -, -, rfl⟩ := step_send taken
      exact sound.send here opened
  | sendFails thread =>
      obtain ⟨call, attempt, fd, rest, here, rfl⟩ := step_send_fails taken
      have issued := sound.issued
      rw [here] at issued
      exact sound.move (.closing call attempt) state.callMutex
        (by rw [here]; exact fun _ new => new) issued nofun trivial
  | recv thread count =>
      obtain ⟨call, attempt, fd, got, socket, wanted, here, opened, -, positive, -, there, rfl⟩ :=
        step_recv taken
      exact sound.recv here opened positive there
  | recvFails thread =>
      obtain ⟨call, attempt, fd, got, here, rfl⟩ := step_recv_fails taken
      have issued := sound.issued
      rw [here] at issued
      exact sound.move (.closing call attempt) state.callMutex
        (by rw [here]; exact fun _ new => new) issued nofun trivial
  | closeFailed thread =>
      obtain ⟨call, attempt, here, rfl⟩ := step_close_failed taken
      have issued := sound.issued
      rw [here] at issued
      unfold afterClose
      split
      · exact sound.close _ nofun trivial rfl
          (fun _ _ rested => ⟨rested, (transport_error_unanswered ..).2⟩)
      · rename_i again
        obtain ⟨twice, first⟩ := not_or.mp again
        refine sound.close _ ?_ ⟨issued.1, by simpa using twice⟩ rfl (fun _ gone _ => gone)
        rw [here]
        rintro other rfl
        exact ⟨rfl, rfl, by simpa using first⟩
  | reconnect thread outcome =>
      obtain ⟨id, call, middle, here, done, rfl⟩ := step_reconnect taken
      have issued := sound.issued
      have facts := sound.point
      rw [here] at issued facts
      refine sound.connect_call facts done call ⟨id, true⟩ ?_ ⟨issued.1, fun _ => issued.2⟩
      rw [here]
      rintro ⟨other, retry⟩ ⟨same, second⟩
      cases same
      have again : retry = true := second rfl
      rw [again]
      rfl
  | unlockCall thread =>
      obtain ⟨id, result, here, rfl⟩ := step_unlock_call taken
      have facts := sound.point
      rw [here] at facts
      exact {
        tied := sound.tied.of_same rfl
        traffic := sound.traffic
        unstarted := nofun
        issued := trivial
        fd := nofun
        point := facts.1
        results := by
          intro other found same
          by_cases mine : other = id
          · simp only [State.move, mine, Function.update_self, Option.some.injEq] at same
            subst same
            exact mine ▸ facts.2
          · simp only [State.move, Function.update_of_ne mine] at same
            exact sound.results other found same }
  | serverRecv socket count => exact sound_server_step sound fits (Or.inl ⟨_, _, rfl⟩) taken
  | handle socket outcome =>
      exact sound_server_step sound fits (Or.inr (Or.inl ⟨_, _, rfl⟩)) taken
  | serverSend socket count =>
      exact sound_server_step sound fits (Or.inr (Or.inr (Or.inl ⟨_, _, rfl⟩))) taken
  | serverCloses socket =>
      exact sound_server_step sound fits (Or.inr (Or.inr (Or.inr ⟨_, rfl⟩))) taken

/-- Every attempt reaches the handler at most once, and a call has as many
attempts as its kind allows. -/
theorem entries_limited {issued : List Call} {links : SocketId → Link} {served : List Entry}
    (traffic : Traffic issued links served) {id : CallId} {call : Call}
    (known : issued[id]? = some call) :
    (served.filter fun entry => entry.attempt.call = id).length ≤ if call.once then 1 else 2 := by
  have nodup : ((served.filter fun entry => entry.attempt.call = id).map Entry.attempt).Nodup :=
    traffic.distinct.sublist (List.filter_sublist.map _)
  have allowed : ∀ attempt ∈ (served.filter fun entry => entry.attempt.call = id).map
      Entry.attempt, attempt.call = id ∧ (attempt.retry → call.once = false) := by
    intro attempt member
    obtain ⟨entry, listed, rfl⟩ := List.mem_map.mp member
    obtain ⟨served, mine⟩ := List.mem_filter.mp listed
    have same : entry.attempt.call = id := of_decide_eq_true mine
    obtain ⟨own, issued, once⟩ := traffic.permitted entry served
    rw [same, known, Option.some.injEq] at issued
    exact ⟨same, issued ▸ once⟩
  have limit : ∀ attempts : List Attempt, (∀ attempt : Attempt, attempt.call = id →
      (attempt.retry → call.once = false) → attempt ∈ attempts) →
      (served.filter fun entry => entry.attempt.call = id).length ≤ attempts.length := by
    intro attempts all
    rw [← List.length_map Entry.attempt]
    apply nodup.length_le_of_subset
    exact fun attempt member => all attempt (allowed attempt member).1 (allowed attempt member).2
  cases once : call.once with
  | true =>
      apply limit [⟨id, false⟩]
      rintro ⟨own, retry⟩ rfl permitted
      cases retry with
      | false => exact List.mem_cons_self
      | true => exact absurd (permitted rfl) (by simp [once])
  | false =>
      apply limit [⟨id, false⟩, ⟨id, true⟩]
      rintro ⟨own, retry⟩ rfl -
      cases retry <;> simp

theorem matched_of_sound (sound : Sound state) : Matched state where
  answered := by
    intro id result found success
    obtain ⟨entry, member, mine, answer⟩ := sound.results id result found success
    obtain ⟨call, known, method, params⟩ := sound.traffic.genuine entry member
    exact ⟨entry, member, call, mine ▸ known, mine, method, params, answer⟩
  limited := fun _ _ known => entries_limited sound.traffic known

/-- In every run of one thread whose payloads fit their length words, results
match requests and the handler is not entered more often than allowed. -/
theorem responses_match_requests (maxFrameBytes : UInt32) (actions : List (Action Unit))
    (fits : Along (step maxFrameBytes) PayloadsFit initial actions) :
    Always (step maxFrameBytes) Matched initial actions :=
  always_of_invariant (fun _ _ _ => sound_step) (fun _ => matched_of_sound) initially_sound fits

def ask : Call := ⟨true, 1, []⟩

/-- A `callOnce` whose request has reached the handler. -/
def handled (responseJson : Bytes) : List (Action Unit) :=
  [.call () ask, .lockCall (), .lazyConnect () (.connected 3), .getFd (), .send () 8,
    .serverRecv 0 8, .handle 0 (some responseJson)]

theorem short_response_matches :
    Always (step 1024) Matched initial
      (handled [7] ++ [.serverSend 0 9, .recv () 8, .recv () 1, .unlockCall ()]) :=
  responses_match_requests 1024 _ (by decide)

/-- Eight zero bytes are a whole response. -/
theorem zero_header_completes (state : State Unit)
    (point : state.points () = .receiving ask ⟨0, false⟩ 3 [])
    (opened : state.descriptors 3 = some 0)
    (arrived : (state.links 0).toClient = word 0 ++ word 0) :
    ∃ last, run (step 1024) state [.recv () 8, .unlockCall ()] = some last ∧
      last.results 0 = some (0, []) ∧ last.served = state.served := by
  have received : step 1024 state (.recv () 8) = some ((state.setLink 0 { state.links 0 with
      toClient := [] }).move () (.unlockingCall 0 (0, []))) := by
    simp only [step, point, opened, Option.bind_some, arrived]
    exact guarded_of _ _ (by decide)
  exact ⟨_, run_cons_eq_some.mpr ⟨_, received, rfl⟩, rfl, rfl⟩

/-- Of a response of 2^32 bytes the client takes the header, which announces
none, and the rest stays in the connection. -/
theorem long_response_is_cut (responseJson : Bytes) (long : responseJson.length = UInt32.size) :
    ∃ last, run (step 1024) initial
        (handled responseJson ++ [.serverSend 0 8, .recv () 8, .unlockCall ()]) = some last ∧
      last.results 0 = some (0, []) ∧
      last.served = [⟨⟨0, false⟩, 1, [], (0, responseJson)⟩] := by
  obtain ⟨answering, completed, point, opened, link, served⟩ :
      ∃ answering, run (step 1024) initial (handled responseJson) = some answering ∧
        answering.points () = .receiving ask ⟨0, false⟩ 3 [] ∧
        answering.descriptors 3 = some 0 ∧
        answering.links 0 = ⟨[], [], .answering (encodeResponse 0 responseJson)⟩ ∧
        answering.served = [⟨⟨0, false⟩, 1, [], (0, responseJson)⟩] :=
    ⟨_, rfl, rfl, rfl, rfl, rfl⟩
  have header : (encodeResponse 0 responseJson).take 8 = word 0 ++ word 0 := by
    have cut : (encodeResponse 0 responseJson).take 8 =
        word 0 ++ word (UInt32.ofNat responseJson.length) := rfl
    rw [cut, long]
    rfl
  have size : (encodeResponse 0 responseJson).length = 8 + UInt32.size := by
    rw [encodeResponse, frame_length, long]
  have sent : step 1024 answering (.serverSend 0 8) = some (answering.setLink 0
      ⟨[], word 0 ++ word 0, .answering ((encodeResponse 0 responseJson).drop 8)⟩) := by
    have longer : ¬8 + UInt32.size ≤ 8 := by decide
    simp only [step, link, size, header, longer, if_false, List.nil_append]
    exact guarded_of _ _ (by decide)
  have arrived : ((answering.setLink 0 ⟨[], word 0 ++ word 0,
      .answering ((encodeResponse 0 responseJson).drop 8)⟩).links 0).toClient =
        word 0 ++ word 0 := rfl
  obtain ⟨last, finished, result, kept⟩ :=
    zero_header_completes (answering.setLink 0 _) point opened arrived
  exact ⟨last, run_append_eq_some.mpr ⟨answering, completed,
    run_cons_eq_some.mpr ⟨_, sent, finished⟩⟩, result, kept.trans served⟩

theorem cut_response_matches_nothing :
    ¬∀ maxFrameBytes actions last, run (step maxFrameBytes) initial actions = some last →
      Matched last := by
  intro claimed
  obtain ⟨last, completed, result, served⟩ :=
    long_response_is_cut (List.replicate UInt32.size 0) List.length_replicate
  obtain ⟨entry, member, call, -, -, -, -, answer⟩ :=
    (claimed 1024 _ last completed).answered 0 _ result (by decide)
  rw [served, List.mem_singleton] at member
  have size := congrArg (fun answer : Result => answer.2.length) answer
  rw [member] at size
  simp only [List.length_replicate, List.length_nil] at size
  exact absurd size (by decide)

end TboxFramework.Ipc.Client
