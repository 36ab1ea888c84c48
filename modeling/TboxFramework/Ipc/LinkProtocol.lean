import TboxFramework.Ipc.Client

/-!
# One connection and the server behind it

What a connection holds in its two directions and what its `connectionLoop` has
read stay parts of one request and one response. The four steps of the server on
a connection are looked at here once; `Quiet`, `Asked` and `Awaiting` are the
three situations that a client can rely on.
-/

namespace TboxFramework.Ipc.Client

open Interleaving FrameStream

set_option autoImplicit false

/-- What one step of a server does to one of its connections. -/
inductive ServerStep (maxFrameBytes : UInt32) : List Entry → Link → List Entry → Link → Prop
  | recv (served : List Entry) (link : Link) (got : List (Attempt × UInt8)) (wanted count : Nat)
      (here : link.server = .reading got)
      (more : readRequest maxFrameBytes (got.map Prod.snd) = .more wanted)
      (positive : 0 < count) (asked : count ≤ wanted) (there : count ≤ link.toServer.length) :
      ServerStep maxFrameBytes served link served
        ⟨link.toServer.drop count, link.toClient,
          afterServerRecv maxFrameBytes (got ++ link.toServer.take count)⟩
  | handle (served : List Entry) (link : Link) (attempt : Attempt) (methodId : UInt32)
      (paramsJson : Bytes) (outcome : Option Bytes)
      (here : link.server = .serving attempt methodId paramsJson) :
      ServerStep maxFrameBytes served link
        (served ++ [⟨attempt, methodId, paramsJson, handlerResult outcome⟩])
        ⟨link.toServer, link.toClient,
          .answering (encodeResponse (handlerResult outcome).1 (handlerResult outcome).2)⟩
  | send (served : List Entry) (link : Link) (rest : Bytes) (count : Nat)
      (here : link.server = .answering rest) (positive : 0 < count)
      (fits : count ≤ rest.length) :
      ServerStep maxFrameBytes served link served
        ⟨link.toServer, link.toClient ++ rest.take count,
          if rest.length ≤ count then .reading [] else .answering (rest.drop count)⟩
  | close (served : List Entry) (link : Link)
      (here : ∀ attempt methodId paramsJson, link.server ≠ .serving attempt methodId paramsJson) :
      ServerStep maxFrameBytes served link served ⟨link.toServer, link.toClient, .closed⟩

/-- The steps of the server in the system are the ones above. -/
theorem server_step {Thread : Type} [DecidableEq Thread] {maxFrameBytes : UInt32}
    {state next : State Thread} {action : Action Thread}
    (server : (∃ socket count, action = .serverRecv socket count) ∨
      (∃ socket outcome, action = .handle socket outcome) ∨
      (∃ socket count, action = .serverSend socket count) ∨
      ∃ socket, action = .serverCloses socket)
    (taken : step maxFrameBytes state action = some next) :
    ∃ socket servedAfter link,
      ServerStep maxFrameBytes state.served (state.links socket) servedAfter link ∧
      next = { state with
        links := Function.update state.links socket link, served := servedAfter } := by
  rcases server with ⟨socket, count, rfl⟩ | ⟨socket, outcome, rfl⟩ | ⟨socket, count, rfl⟩ |
    ⟨socket, rfl⟩
  · obtain ⟨got, wanted, here, more, positive, asked, there, rfl⟩ := step_server_recv taken
    exact ⟨socket, _, _, .recv _ _ got wanted count here more positive asked there, rfl⟩
  · obtain ⟨attempt, methodId, paramsJson, here, rfl⟩ := step_handle taken
    exact ⟨socket, _, _, .handle _ _ attempt methodId paramsJson outcome here, rfl⟩
  · obtain ⟨rest, here, positive, fits, rfl⟩ := step_server_send taken
    exact ⟨socket, _, _, .send _ _ rest count here positive fits, rfl⟩
  · obtain ⟨here, rfl⟩ := step_server_closes taken
    exact ⟨socket, _, _, .close _ _ here, rfl⟩

/-! ## The attempts a connection carries -/

def ServerPoint.carried : ServerPoint → List Attempt
  | .reading got => got.map Prod.fst
  | .serving attempt _ _ => [attempt]
  | _ => []

/-- The attempts with bytes on their way to the handler. -/
def Link.carried (link : Link) : List Attempt :=
  link.server.carried ++ link.toServer.map Prod.fst

theorem carried_of_reading {link : Link} {got : List (Attempt × UInt8)}
    (here : link.server = .reading got) :
    link.carried = (got ++ link.toServer).map Prod.fst := by
  simp [Link.carried, here, ServerPoint.carried]

/-- The request frame of a call. -/
def requestFrame (call : Call) : Bytes := encodeRequest call.methodId call.paramsJson

def tagged (attempt : Attempt) (bytes : Bytes) : List (Attempt × UInt8) :=
  bytes.map fun byte => (attempt, byte)

@[simp] theorem tagged_snd (attempt : Attempt) (bytes : Bytes) :
    (tagged attempt bytes).map Prod.snd = bytes := by
  simp [tagged, Function.comp_def]

theorem tagged_fst {attempt other : Attempt} {bytes : Bytes}
    (member : other ∈ (tagged attempt bytes).map Prod.fst) : other = attempt := by
  simp only [tagged, List.map_map, List.mem_map, Function.comp_apply] at member
  obtain ⟨byte, -, same⟩ := member
  exact same.symm

/-- A part of a tagged sequence is tagged alike. -/
theorem tagged_prefix {attempt : Attempt} {bytes : Bytes} {got rest : List (Attempt × UInt8)}
    (split : got ++ rest = tagged attempt bytes) :
    got = tagged attempt (got.map Prod.snd) ∧ got.map Prod.snd <+: bytes := by
  have parts : got.map Prod.snd ++ rest.map Prod.snd = bytes := by
    rw [← List.map_append, split, tagged_snd]
  refine ⟨?_, ⟨_, parts⟩⟩
  have same : got ++ rest =
      tagged attempt (got.map Prod.snd) ++ tagged attempt (rest.map Prod.snd) := by
    rw [split, ← parts, tagged, List.map_append]
    rfl
  exact (List.append_inj same (by simp [tagged])).1

/-! ## One request at a time -/

/-- What is on its way to a server is part of one request of one call. -/
def LinkSound (issued : List Call) (link : Link) : Prop :=
  match link.server with
  | .reading got => got ++ link.toServer = [] ∨ ∃ attempt call sent,
      issued[attempt.call]? = some call ∧ sent <+: requestFrame call ∧
        got ++ link.toServer = tagged attempt sent
  | .serving attempt methodId paramsJson => link.toServer = [] ∧ ∃ call,
      issued[attempt.call]? = some call ∧ methodId = call.methodId ∧
        paramsJson = call.paramsJson
  | .answering _ => link.toServer = []
  | .closed => True

/-- A connection without a request under way. -/
def Quiet (link : Link) : Prop :=
  link.toClient = [] ∧ (link.server = .closed ∨ link.server = .reading [] ∧ link.toServer = [])

/-- A connection that has taken `sent` from the attempt and nothing else. -/
def Asked (link : Link) (attempt : Attempt) (sent : Bytes) : Prop :=
  link.toClient = [] ∧ (link.server = .closed ∨
    ∃ got, link.server = .reading got ∧ got ++ link.toServer = tagged attempt sent)

/-- The client has received `got` of the answer that the handler gave. -/
def Answered (served : List Entry) (link : Link) (attempt : Attempt) (got : Bytes) : Prop :=
  ∃ entry ∈ served, entry.attempt = attempt ∧
    ((∃ rest, link.server = .answering rest ∧ rest ≠ [] ∧
        got ++ link.toClient ++ rest = encodeResponse entry.answer.1 entry.answer.2) ∨
      (link.server = .reading [] ∧ link.toServer = [] ∧
        got ++ link.toClient = encodeResponse entry.answer.1 entry.answer.2) ∨
      (link.server = .closed ∧
        got ++ link.toClient <+: encodeResponse entry.answer.1 entry.answer.2))

/-- The whole request has been sent and `got` of its response received. -/
def Awaiting (served : List Entry) (link : Link) (call : Call) (attempt : Attempt) (got : Bytes) :
    Prop :=
  got = [] ∧ Asked link attempt (requestFrame call) ∨
    (got = [] ∧ link.toClient = [] ∧ link.toServer = [] ∧
      link.server = .serving attempt call.methodId call.paramsJson) ∨
    Answered served link attempt got

/-! ## What the server's steps keep -/

variable {maxFrameBytes : UInt32} {issued : List Call} {served servedAfter : List Entry}
  {link after : Link} {call : Call} {attempt : Attempt} {sent received : Bytes}

/-- The server reads a request only up to its end. -/
theorem after_server_recv (maxFrameBytes : UInt32) {got toServer : List (Attempt × UInt8)}
    {count : Nat} (short : call.paramsJson.length < UInt32.size)
    (inside : sent <+: requestFrame call) (split : got ++ toServer = tagged attempt sent)
    (positive : 0 < count) (there : count ≤ toServer.length) :
    afterServerRecv maxFrameBytes (got ++ toServer.take count) =
        .reading (got ++ toServer.take count) ∨
      afterServerRecv maxFrameBytes (got ++ toServer.take count) = .closed ∨
      (afterServerRecv maxFrameBytes (got ++ toServer.take count) =
          .serving attempt call.methodId call.paramsJson ∧
        sent = requestFrame call ∧ toServer.drop count = []) := by
  have parts : (got ++ toServer.take count) ++ toServer.drop count = tagged attempt sent := by
    rw [List.append_assoc, List.take_append_drop, split]
  obtain ⟨tags, start⟩ := tagged_prefix parts
  cases reading : readRequest maxFrameBytes ((got ++ toServer.take count).map Prod.snd) with
  | more wanted => exact Or.inl (by simp only [afterServerRecv, reading])
  | overLimit => exact Or.inr (Or.inl (by simp only [afterServerRecv, reading]))
  | complete methodId paramsJson =>
      right; right
      obtain ⟨whole, rfl, rfl⟩ := complete_is_frame short (start.trans inside) reading
      have full : sent = requestFrame call := inside.eq_of_length_le (whole ▸ start).length_le
      have size := congrArg List.length parts
      rw [tags, whole, full, tagged, tagged, List.length_append, List.length_map,
        List.length_map] at size
      have rest : toServer.drop count = [] :=
        List.eq_nil_of_length_eq_zero (Nat.add_eq_left.mp size)
      refine ⟨?_, full, rest⟩
      cases first : got ++ toServer.take count with
      | nil =>
          have none_got := congrArg List.length first
          rw [List.length_append, List.length_take, List.length_nil] at none_got
          omega
      | cons head others =>
          rw [first] at tags reading
          have listed : head.1 ∈ (tagged attempt ((head :: others).map Prod.snd)).map Prod.fst := by
            rw [← tags]
            exact List.mem_cons_self
          have owner : head.1 = attempt := tagged_fst listed
          simp only [afterServerRecv, reading, owner]

theorem link_sound_step (short : ∀ call ∈ issued, call.paramsJson.length < UInt32.size)
    (sound : LinkSound issued link)
    (taken : ServerStep maxFrameBytes served link servedAfter after) :
    LinkSound issued after := by
  cases taken with
  | recv got wanted count here more positive asked there =>
      rw [LinkSound, here] at sound
      rcases sound with empty | ⟨attempt, call, sent, known, inside, split⟩
      · have nothing := (List.append_eq_nil_iff.mp empty).2
        rw [nothing, List.length_nil] at there
        omega
      · have brief := short call (List.mem_of_getElem? known)
        rcases after_server_recv maxFrameBytes brief inside split positive there
          with reading | closed | ⟨serving, -, rest⟩
        · rw [LinkSound, reading]
          refine Or.inr ⟨attempt, call, sent, known, inside, ?_⟩
          rw [List.append_assoc, List.take_append_drop, split]
        · rw [LinkSound, closed]
          trivial
        · rw [LinkSound, serving]
          exact ⟨rest, call, known, rfl, rfl⟩
  | handle attempt methodId paramsJson outcome here =>
      rw [LinkSound, here] at sound
      exact sound.1
  | send rest count here positive fits =>
      rw [LinkSound, here] at sound
      unfold LinkSound
      split <;> rename_i point
      · split at point
        · cases point
          exact Or.inl sound
        · cases point
      · split at point <;> cases point
      · exact sound
      · trivial
  | close => trivial

/-- A server makes no attempt of its own. -/
theorem carried_step (taken : ServerStep maxFrameBytes served link servedAfter after)
    {attempt : Attempt} (member : attempt ∈ after.carried) : attempt ∈ link.carried := by
  cases taken with
  | recv got wanted count here =>
      rw [carried_of_reading here]
      have whole : got ++ link.toServer =
          (got ++ link.toServer.take count) ++ link.toServer.drop count := by
        rw [List.append_assoc, List.take_append_drop]
      rw [whole, List.map_append, List.mem_append]
      rw [Link.carried, List.mem_append] at member
      apply member.imp_left
      intro read
      unfold afterServerRecv at read
      split at read
      · cases read
      · rename_i first others _ same
        cases List.mem_singleton.mp read
        rw [same]
        exact List.mem_cons_self
      · exact read
  | handle attempt methodId paramsJson outcome here =>
      exact List.mem_append_right _ member
  | send rest count here positive fits =>
      apply List.mem_append_right _
      rw [Link.carried, List.mem_append] at member
      apply member.resolve_left
      split <;> exact List.not_mem_nil
  | close => exact List.mem_append_right _ member

/-- The handler is entered only for an attempt that the connection carried and
then carries no more. -/
theorem served_step (sound : LinkSound issued link)
    (taken : ServerStep maxFrameBytes served link servedAfter after) :
    servedAfter = served ∨ ∃ entry call, servedAfter = served ++ [entry] ∧
      entry.attempt ∈ link.carried ∧ after.carried = [] ∧
      issued[entry.attempt.call]? = some call ∧ entry.methodId = call.methodId ∧
      entry.paramsJson = call.paramsJson := by
  cases taken with
  | handle attempt methodId paramsJson outcome here =>
      rw [LinkSound, here] at sound
      obtain ⟨nothing, call, known, method, params⟩ := sound
      refine Or.inr ⟨_, call, rfl, ?_, ?_, known, method, params⟩
      · simp [Link.carried, here, ServerPoint.carried]
      · simp [Link.carried, nothing, ServerPoint.carried]
  | _ => exact Or.inl rfl

theorem quiet_step (quiet : Quiet link)
    (taken : ServerStep maxFrameBytes served link servedAfter after) : Quiet after := by
  obtain ⟨silent, closed | ⟨reading, nothing⟩⟩ := quiet
  · cases taken with
    | recv _ _ _ here => rw [closed] at here; cases here
    | handle _ _ _ _ here => rw [closed] at here; cases here
    | send _ _ here => rw [closed] at here; cases here
    | close => exact ⟨silent, Or.inl rfl⟩
  · cases taken with
    | recv got wanted count here more positive asked there =>
        rw [nothing, List.length_nil] at there
        omega
    | handle _ _ _ _ here => rw [reading] at here; cases here
    | send _ _ here => rw [reading] at here; cases here
    | close => exact ⟨silent, Or.inl rfl⟩

/-- While part of a request is missing the server waits for it or gives up. -/
theorem asked_step (short : call.paramsJson.length < UInt32.size)
    (inside : sent <+: requestFrame call) (partly : sent ≠ requestFrame call)
    (asked : Asked link attempt sent)
    (taken : ServerStep maxFrameBytes served link servedAfter after) :
    Asked after attempt sent := by
  obtain ⟨silent, closed | ⟨got, reading, split⟩⟩ := asked
  · cases taken with
    | recv _ _ _ here => rw [closed] at here; cases here
    | handle _ _ _ _ here => rw [closed] at here; cases here
    | send _ _ here => rw [closed] at here; cases here
    | close => exact ⟨silent, Or.inl rfl⟩
  · cases taken with
    | recv held wanted count here more positive asked there =>
        cases ServerPoint.reading.inj (here.symm.trans reading)
        rcases after_server_recv maxFrameBytes short inside split positive there
          with still | gone | ⟨-, full, -⟩
        · refine ⟨silent, Or.inr ⟨_, still, ?_⟩⟩
          rw [List.append_assoc, List.take_append_drop, split]
        · exact ⟨silent, Or.inl gone⟩
        · exact absurd full partly
    | handle _ _ _ _ here => rw [reading] at here; cases here
    | send _ _ here => rw [reading] at here; cases here
    | close => exact ⟨silent, Or.inl rfl⟩

/-- Once the whole request has been sent the server reads it, runs the handler
once, sends its answer, or gives up. -/
theorem awaiting_step (short : call.paramsJson.length < UInt32.size) (sound : LinkSound issued link)
    (awaits : Awaiting served link call attempt received)
    (taken : ServerStep maxFrameBytes served link servedAfter after) :
    Awaiting servedAfter after call attempt received := by
  rcases awaits with ⟨none_yet, silent, closed | ⟨got, reading, split⟩⟩ |
    ⟨none_yet, silent, nothing, serving⟩ |
    ⟨entry, member, mine, ⟨rest, answering, left, parts⟩ | ⟨reading, nothing, whole⟩ |
      ⟨closed, start⟩⟩
  · cases taken with
    | recv _ _ _ here => rw [closed] at here; cases here
    | handle _ _ _ _ here => rw [closed] at here; cases here
    | send _ _ here => rw [closed] at here; cases here
    | close => exact Or.inl ⟨none_yet, silent, Or.inl rfl⟩
  · cases taken with
    | recv held wanted count here more positive asked there =>
        cases ServerPoint.reading.inj (here.symm.trans reading)
        rcases after_server_recv maxFrameBytes short (List.prefix_refl _) split
          positive there with still | gone | ⟨done, -, rest⟩
        · refine Or.inl ⟨none_yet, silent, Or.inr ⟨_, still, ?_⟩⟩
          rw [List.append_assoc, List.take_append_drop, split]
        · exact Or.inl ⟨none_yet, silent, Or.inl gone⟩
        · exact Or.inr (Or.inl ⟨none_yet, silent, rest, done⟩)
    | handle _ _ _ _ here => rw [reading] at here; cases here
    | send _ _ here => rw [reading] at here; cases here
    | close => exact Or.inl ⟨none_yet, silent, Or.inl rfl⟩
  · cases taken with
    | recv _ _ _ here => rw [serving] at here; cases here
    | handle other methodId paramsJson outcome here =>
        cases here.symm.trans serving
        refine Or.inr (Or.inr ⟨_, List.mem_append_right _ List.mem_cons_self, rfl,
          Or.inl ⟨_, rfl, ?_, ?_⟩⟩)
        · exact List.ne_nil_of_length_pos (by rw [encodeResponse, frame_length]; omega)
        · rw [none_yet, silent]
          rfl
    | send _ _ here => rw [serving] at here; cases here
    | close here => exact absurd serving (here _ _ _)
  · cases taken with
    | recv _ _ _ here => rw [answering] at here; cases here
    | handle _ _ _ _ here => rw [answering] at here; cases here
    | send held count here positive fits =>
        cases ServerPoint.answering.inj (here.symm.trans answering)
        rw [LinkSound, answering] at sound
        refine Or.inr (Or.inr ⟨entry, member, mine, ?_⟩)
        split
        · rename_i all
          refine Or.inr (Or.inl ⟨rfl, sound, ?_⟩)
          rw [List.take_of_length_le all, ← List.append_assoc]
          exact parts
        · rename_i some_left
          refine Or.inl ⟨_, rfl, ?_, ?_⟩
          · rw [Ne, List.drop_eq_nil_iff]
            exact some_left
          · rw [← parts]
            simp only [List.append_assoc, List.take_append_drop]
    | close =>
        exact Or.inr (Or.inr ⟨entry, member, mine, Or.inr (Or.inr ⟨rfl, rest, parts⟩)⟩)
  · cases taken with
    | recv got wanted count here more positive asked there =>
        rw [nothing, List.length_nil] at there
        omega
    | handle _ _ _ _ here => rw [reading] at here; cases here
    | send _ _ here => rw [reading] at here; cases here
    | close =>
        exact Or.inr (Or.inr ⟨entry, member, mine, Or.inr (Or.inr ⟨rfl, [], by simp [whole]⟩)⟩)
  · cases taken with
    | recv _ _ _ here => rw [closed] at here; cases here
    | handle _ _ _ _ here => rw [closed] at here; cases here
    | send _ _ here => rw [closed] at here; cases here
    | close =>
        exact Or.inr (Or.inr ⟨entry, member, mine, Or.inr (Or.inr ⟨rfl, start⟩)⟩)

theorem asked_keeps_served (asked : Asked link attempt sent)
    (taken : ServerStep maxFrameBytes served link servedAfter after) : servedAfter = served := by
  cases taken with
  | handle other methodId paramsJson outcome here =>
      obtain ⟨-, closed | ⟨got, reading, -⟩⟩ := asked
      · rw [closed] at here
        cases here
      · rw [reading] at here
        cases here
  | _ => rfl

/-! ## What the client's own steps do to a connection -/

theorem carried_send {part : Bytes} {other : Attempt}
    (member : other ∈ ({ link with
      toServer := link.toServer ++ tagged attempt part } : Link).carried) :
    other ∈ link.carried ∨ other = attempt := by
  rw [Link.carried, List.map_append, ← List.append_assoc, List.mem_append] at member
  exact member.imp_right tagged_fst

theorem asked_send {part : Bytes} (asked : Asked link attempt sent) :
    Asked { link with toServer := link.toServer ++ tagged attempt part } attempt
      (sent ++ part) := by
  obtain ⟨silent, closed | ⟨got, reading, split⟩⟩ := asked
  · exact ⟨silent, Or.inl closed⟩
  · refine ⟨silent, Or.inr ⟨got, reading, ?_⟩⟩
    rw [← List.append_assoc, split, tagged, tagged, tagged, List.map_append]

theorem link_sound_of_asked (known : issued[attempt.call]? = some call)
    (inside : sent <+: requestFrame call) (asked : Asked link attempt sent) :
    LinkSound issued link := by
  obtain ⟨-, closed | ⟨got, reading, split⟩⟩ := asked
  · rw [LinkSound, closed]
    trivial
  · rw [LinkSound, reading]
    exact Or.inr ⟨attempt, call, sent, known, inside, split⟩

theorem quiet_is_asked (quiet : Quiet link) (attempt : Attempt) : Asked link attempt [] := by
  obtain ⟨silent, closed | ⟨reading, nothing⟩⟩ := quiet
  · exact ⟨silent, Or.inl closed⟩
  · exact ⟨silent, Or.inr ⟨[], reading, by rw [nothing]; rfl⟩⟩

theorem answered_recv (count : Nat) (answered : Answered served link attempt received) :
    Answered served { link with toClient := link.toClient.drop count } attempt
      (received ++ link.toClient.take count) := by
  have whole : received ++ link.toClient.take count ++ link.toClient.drop count =
      received ++ link.toClient := by
    rw [List.append_assoc, List.take_append_drop]
  obtain ⟨entry, member, mine, parts⟩ := answered
  exact ⟨entry, member, mine, by simpa only [whole] using parts⟩

/-- Only an answer arrives at the client. -/
theorem answered_of_arrival (awaits : Awaiting served link call attempt received)
    (arrived : link.toClient ≠ []) : Answered served link attempt received := by
  rcases awaits with ⟨-, silent, -⟩ | ⟨-, silent, -⟩ | answered
  · exact absurd silent arrived
  · exact absurd silent arrived
  · exact answered

theorem Awaiting.mono {more : List Entry} (awaits : Awaiting served link call attempt received)
    (grows : ∀ entry ∈ served, entry ∈ more) : Awaiting more link call attempt received := by
  refine awaits.imp_right (Or.imp_right ?_)
  rintro ⟨entry, member, rest⟩
  exact ⟨entry, grows entry member, rest⟩

/-- A response that the client completes is the handler's answer, and nothing is
left behind it. -/
theorem answered_complete {head : UInt32} {body : Bytes}
    (brief : ∀ entry ∈ served, entry.answer.2.length < UInt32.size)
    (answered : Answered served link attempt received)
    (complete : readResponse maxFrameBytes received = .complete head body) :
    Quiet link ∧ ∃ entry ∈ served, entry.attempt = attempt ∧
      entry.answer = (head.toInt32, body) := by
  obtain ⟨entry, member, mine, parts⟩ := answered
  have start : received <+: encodeResponse entry.answer.1 entry.answer.2 := by
    rcases parts with ⟨rest, -, -, split⟩ | ⟨-, -, split⟩ | ⟨-, more, split⟩
    · exact ⟨link.toClient ++ rest, by rw [← List.append_assoc, split]⟩
    · exact ⟨link.toClient, split⟩
    · exact ⟨link.toClient ++ more, by rw [← List.append_assoc, split]⟩
  obtain ⟨whole, rfl, rfl⟩ := complete_is_frame (brief entry member) start complete
  have ended : ∀ more, received ++ more = encodeResponse entry.answer.1 entry.answer.2 →
      more = [] := by
    intro more split
    rw [whole] at split
    exact List.append_right_eq_self.mp split
  refine ⟨?_, entry, member, mine, rfl⟩
  rcases parts with ⟨rest, -, left, split⟩ | ⟨reading, nothing, split⟩ | ⟨closed, more, split⟩
  · rw [List.append_assoc] at split
    exact absurd (List.append_eq_nil_iff.mp (ended _ split)).2 left
  · exact ⟨ended _ split, Or.inr ⟨reading, nothing⟩⟩
  · rw [List.append_assoc] at split
    exact ⟨(List.append_eq_nil_iff.mp (ended _ split)).1, Or.inl closed⟩

end TboxFramework.Ipc.Client
