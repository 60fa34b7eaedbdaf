import GreaterWill.Daemon.Messages
import GreaterWill.Lib.Run
import Mathlib.Data.List.Infix
import Mathlib.Logic.Function.Basic

/-!
# Connections

`handle_connection` of `daemon/server.rs`, for any number of connections at once. Bytes travel in
pieces of any size; a connection reads a request when all of it has arrived, has the daemon answer it
and writes the response before it reads the next. A request to follow a log turns the connection into
a stream of log chunks, and a request that does not arrive in time is answered with an error; after
either no request is read. A write that fails ends the connection, and may have written a beginning.

Whatever the order in which the connections and the rest of the daemon take their steps, the requests
of a connection are answered one by one in the order they were asked, and its client reads the answers
to its own requests and to no others (`each_client_reads_its_answers`).

What the daemon does with a request is the parameter `dispatch`.
-/

namespace GreaterWill

open Wire

namespace Wire

/-- Whether the request turns the connection into a stream. -/
def Request.follows : Request → Bool
  | .getLogs _ follow _ _ => follow
  | _ => false

/-- The answer to a request that does not arrive in time. -/
def requestTimeout : Wire.Response := .error .internalError "request timeout"

end Wire

inductive ConnPhase where
  | reading
  | following
  | closed
  deriving DecidableEq

/-- A connection, with the bytes under way in both directions. -/
structure Conn where
  /-- Written by the client, not yet arrived. -/
  wire : List UInt8 := []
  /-- Arrived, not yet read by the daemon. -/
  inbox : List UInt8 := []
  /-- Written by the daemon, not yet arrived. -/
  outbox : List UInt8 := []
  /-- Arrived at the client. -/
  received : List UInt8 := []
  phase : ConnPhase := .reading
  /-- The requests the client has written. -/
  asked : List Request := []
  /-- The request that turned the connection into a stream. -/
  followed : Option Request := none
  /-- The responses that are no answers of `dispatch`: log chunks, and a timeout. -/
  streamed : List Wire.Response := []

/-- The connections and the rest of the daemon. -/
structure Sockets (σ : Type) where
  conns : Nat → Conn := fun _ => {}
  daemon : σ
  /-- The requests dispatched so far: the connection, the request, and the state of the daemon then. -/
  handled : List (Nat × Request × σ) := []

inductive SocketEvent (σ : Type) where
  | send (c : Nat) (r : Request)
  | arrive (c n : Nat)
  | receive (c n : Nat)
  /-- One turn of the loop; the write of the response may be cut after some bytes. -/
  | handle (c : Nat) (cut : Option Nat)
  | timeout (c : Nat) (cut : Option Nat)
  | chunk (c : Nat) (response : Wire.Response) (cut : Option Nat)
  /-- The client hangs up, the daemon shuts down, or the stream ends. -/
  | close (c : Nat)
  /-- The rest of the daemon takes a step. -/
  | other (daemon : σ)

section
variable {σ : Type} (format : JsonFormat) (time : Serde DateTime)
  (dispatch : Request → σ → Wire.Response × σ)

def requestSerde : SerdeJson Request Unit := format.serdeAt (Request.serde time)

def responseSerde : SerdeJson Wire.Response Unit := format.serdeAt Wire.Response.serde

/-- Write a response; a failed write ends the connection. -/
def Conn.write (k : Conn) (response : Wire.Response) (cut : Option Nat) : Conn :=
  match writeMessage (responseSerde format) response, cut with
  | .ok frame, none => { k with outbox := k.outbox ++ frame }
  | .ok frame, some n => { k with outbox := k.outbox ++ frame.take n, phase := .closed }
  | .error _, _ => { k with phase := .closed }

/-- Replace a connection. -/
def Sockets.setConn (s : Sockets σ) (c : Nat) (k : Conn) : Sockets σ :=
  { s with conns := Function.update s.conns c k }

/-- One event, if it can happen. -/
def Sockets.step (s : Sockets σ) : SocketEvent σ → Option (Sockets σ)
  | .send c r =>
    match writeMessage (requestSerde format time) r with
    | .ok frame =>
      let k := s.conns c
      some (s.setConn c { k with wire := k.wire ++ frame, asked := k.asked ++ [r] })
    | .error _ => none
  | .arrive c n =>
    let k := s.conns c
    some (s.setConn c { k with inbox := k.inbox ++ k.wire.take n, wire := k.wire.drop n })
  | .receive c n =>
    let k := s.conns c
    some (s.setConn c
      { k with received := k.received ++ k.outbox.take n, outbox := k.outbox.drop n })
  | .handle c cut =>
    let k := s.conns c
    if k.phase = .reading then
      match readMessage (requestSerde format time) k.inbox with
      | .ok (request, inbox) =>
        if request.follows then
          some (s.setConn c
            { k with inbox := inbox, phase := .following, followed := some request })
        else
          let (response, daemon) := dispatch request s.daemon
          some
            { s.setConn c (Conn.write format { k with inbox := inbox } response cut) with
              daemon := daemon
              handled := s.handled ++ [(c, request, s.daemon)] }
      -- the rest of the request has not arrived
      | .error .unexpectedEof => none
      | .error _ => some (s.setConn c { k with phase := .closed })
    else
      none
  | .timeout c cut =>
    let k := s.conns c
    if k.phase = .reading then
      let k := Conn.write format { k with streamed := k.streamed ++ [requestTimeout] }
        requestTimeout cut
      some (s.setConn c { k with phase := .closed })
    else
      none
  | .chunk c response cut =>
    let k := s.conns c
    if k.phase = .following then
      some (s.setConn c
        (Conn.write format { k with streamed := k.streamed ++ [response] } response cut))
    else
      none
  | .close c => some (s.setConn c { s.conns c with phase := .closed })
  | .other daemon => some { s with daemon := daemon }

/-- The requests of a connection that were dispatched. -/
def Sockets.dispatched (s : Sockets σ) (c : Nat) : List Request :=
  (s.handled.filter (·.1 = c)).map (·.2.1)

/-- The answers to the requests of a connection. -/
def Sockets.answers (s : Sockets σ) (c : Nat) : List Wire.Response :=
  (s.handled.filter (·.1 = c)).map fun h => (dispatch h.2.1 h.2.2).1

/-- The responses the client has read. -/
def Conn.read (k : Conn) : List Wire.Response :=
  ((messageReader (responseSerde format)).readAll k.received).1

end

/-! ## What stands on the wire -/

section
variable {T E : Type} (serde : SerdeJson T E)

/-- The bytes are the frames of the messages. -/
def Written (msgs : List T) (bytes : List UInt8) : Prop :=
  ∃ frames, List.Forall₂ ((messageReader serde).IsFrame .unexpectedEof) msgs frames ∧
    bytes = frames.flatten

/-- The bytes are a beginning of what some of the messages from the first on are written as. -/
def Begun (msgs : List T) (bytes : List UInt8) : Prop :=
  ∃ sent whole n, sent <+: msgs ∧ Written serde sent whole ∧ bytes = whole.take n

variable {serde} {msgs msgs' : List T} {msg : T} {bytes frame : List UInt8}

theorem Written.nil : Written serde ([] : List T) [] := ⟨[], .nil, rfl⟩

theorem Written.concat (h : Written serde msgs bytes)
    (hframe : (messageReader serde).IsFrame .unexpectedEof msg frame) :
    Written serde (msgs ++ [msg]) (bytes ++ frame) := by
  obtain ⟨frames, hframes, rfl⟩ := h
  refine ⟨frames ++ [frame], ?_, by rw [List.flatten_append, List.flatten_singleton]⟩
  exact List.rel_append hframes (.cons hframe .nil)

theorem Written.begun (h : Written serde msgs bytes) : Begun serde msgs bytes :=
  ⟨msgs, bytes, bytes.length, List.prefix_refl msgs, h, List.take_length.symm⟩

theorem Begun.mono (h : Begun serde msgs bytes) (hle : msgs <+: msgs') :
    Begun serde msgs' bytes := by
  obtain ⟨sent, whole, n, hsent, hwhole, hbytes⟩ := h
  exact ⟨sent, whole, n, hsent.trans hle, hwhole, hbytes⟩

/-- A write that was cut off. -/
theorem Written.cut (h : Written serde msgs bytes)
    (hframe : (messageReader serde).IsFrame .unexpectedEof msg frame) (n : Nat) :
    Begun serde (msgs ++ [msg]) (bytes ++ frame.take n) := by
  refine ⟨msgs ++ [msg], bytes ++ frame, bytes.length + n, List.prefix_refl _, h.concat hframe, ?_⟩
  rw [List.take_length_add_append]

/-- What has arrived of it is read as some of the messages from the first on. -/
theorem Begun.readAll (h : Begun serde msgs bytes) {s t : List UInt8} (hbytes : s ++ t = bytes) :
    ((messageReader serde).readAll s).1 <+: msgs := by
  obtain ⟨sent, whole, n, hsent, ⟨frames, hframes, rfl⟩, rfl⟩ := h
  have hcut : s = frames.flatten.take (min s.length n) := by
    rw [← List.take_take, ← hbytes, List.take_left]
  obtain ⟨j, left, hread⟩ := Reader.readAll_take readMessage_nil hframes (min s.length n)
  rw [hcut, hread]
  exact (List.take_prefix j sent).trans hsent

theorem Written.readAll (h : Written serde msgs bytes) :
    ((messageReader serde).readAll bytes).1 = msgs := by
  obtain ⟨frames, hframes, rfl⟩ := h
  rw [Reader.readAll_flatten readMessage_nil hframes]

end

/-! ## The invariant of a connection -/

section
variable {σ : Type} {format : JsonFormat} {time : Serde DateTime}
  {dispatch : Request → σ → Wire.Response × σ}

theorem isFrame_request {r : Request} {frame : List UInt8}
    (h : writeMessage (requestSerde format time) r = .ok frame) :
    (messageReader (requestSerde format time)).IsFrame .unexpectedEof r frame :=
  isFrame_of_writeMessage h (format.fromSlice_of_toVec (Request.serde time) r)

theorem isFrame_response {r : Wire.Response} {frame : List UInt8}
    (h : writeMessage (responseSerde format) r = .ok frame) :
    (messageReader (responseSerde format)).IsFrame .unexpectedEof r frame :=
  isFrame_of_writeMessage h (format.fromSlice_of_toVec Wire.Response.serde r)

namespace Conn
variable {k : Conn} {dispatched waiting : List Request} {answers : List Wire.Response}
  {response : Wire.Response} {cut : Option Nat}

/-- A connection whose client asked nothing but requests, with the requests that were dispatched and
the answers to them. -/
structure Inv (format : JsonFormat) (time : Serde DateTime) (k : Conn) (dispatched : List Request)
    (answers : List Wire.Response) : Prop where
  /-- The requests that were not read yet stand on the wire. -/
  asked : ∃ waiting, k.asked = dispatched ++ k.followed.toList ++ waiting ∧
    Written (requestSerde format time) waiting (k.inbox ++ k.wire)
  begun : Begun (responseSerde format) (answers ++ k.streamed) (k.received ++ k.outbox)
  written : k.phase ≠ .closed →
    Written (responseSerde format) (answers ++ k.streamed) (k.received ++ k.outbox)
  reading : k.phase = .reading → k.followed = none ∧ k.streamed = []

theorem Inv.init : Inv format time {} [] [] where
  asked := ⟨[], rfl, .nil⟩
  begun := Written.nil.begun
  written _ := .nil
  reading _ := ⟨rfl, rfl⟩

/-- A write changes only what stands on the wire to the client, and whether the connection goes on. -/
theorem write_frame (format : JsonFormat) (k : Conn) (response : Wire.Response) (cut : Option Nat) :
    (k.write format response cut).wire = k.wire ∧ (k.write format response cut).inbox = k.inbox ∧
      (k.write format response cut).asked = k.asked ∧
      (k.write format response cut).followed = k.followed ∧
      (k.write format response cut).streamed = k.streamed := by
  unfold write
  split
  · exact ⟨rfl, rfl, rfl, rfl, rfl⟩
  · exact ⟨rfl, rfl, rfl, rfl, rfl⟩
  · exact ⟨rfl, rfl, rfl, rfl, rfl⟩

/-- A write adds the response, or a beginning of it and the connection ends. -/
theorem write_spec (response : Wire.Response) (cut : Option Nat) {sent : List Wire.Response}
    (h : Written (responseSerde format) sent (k.received ++ k.outbox)) :
    (((k.write format response cut).phase = k.phase ∧
        Written (responseSerde format) (sent ++ [response])
          ((k.write format response cut).received ++ (k.write format response cut).outbox)) ∨
      ((k.write format response cut).phase = .closed ∧
        Begun (responseSerde format) (sent ++ [response])
          ((k.write format response cut).received ++ (k.write format response cut).outbox))) := by
  unfold write
  split
  · next frame hframe =>
    refine .inl ⟨rfl, ?_⟩
    rw [← List.append_assoc]
    exact h.concat (isFrame_response hframe)
  · next frame n hframe =>
    refine .inr ⟨rfl, ?_⟩
    rw [← List.append_assoc]
    exact h.cut (isFrame_response hframe) n
  · exact .inr ⟨rfl, h.begun.mono (List.prefix_append _ _)⟩

/-- The client writes a request. -/
theorem Inv.send (h : k.Inv format time dispatched answers) {r : Request} {frame : List UInt8}
    (hframe : writeMessage (requestSerde format time) r = .ok frame) :
    Inv format time { k with wire := k.wire ++ frame, asked := k.asked ++ [r] } dispatched
      answers where
  asked := by
    obtain ⟨waiting, hasked, hwaiting⟩ := h.asked
    refine ⟨waiting ++ [r], ?_, ?_⟩
    · rw [hasked, List.append_assoc]
    · rw [← List.append_assoc]
      exact hwaiting.concat (isFrame_request hframe)
  begun := h.begun
  written := h.written
  reading := h.reading

/-- Bytes arrive at the daemon. -/
theorem Inv.arrive (h : k.Inv format time dispatched answers) (n : Nat) :
    Inv format time { k with inbox := k.inbox ++ k.wire.take n, wire := k.wire.drop n } dispatched
      answers where
  asked := by
    obtain ⟨waiting, hasked, hwaiting⟩ := h.asked
    refine ⟨waiting, hasked, ?_⟩
    rwa [List.append_assoc, List.take_append_drop]
  begun := h.begun
  written := h.written
  reading := h.reading

/-- Bytes arrive at the client. -/
theorem Inv.receive (h : k.Inv format time dispatched answers) (n : Nat) :
    Inv format time { k with received := k.received ++ k.outbox.take n, outbox := k.outbox.drop n }
      dispatched answers where
  asked := h.asked
  begun := by
    have hbegun := h.begun
    rwa [← List.take_append_drop n k.outbox, ← List.append_assoc] at hbegun
  written := by
    intro hphase
    have hwritten := h.written hphase
    rwa [← List.take_append_drop n k.outbox, ← List.append_assoc] at hwritten
  reading := h.reading

theorem Inv.close (h : k.Inv format time dispatched answers) :
    Inv format time { k with phase := .closed } dispatched answers where
  asked := h.asked
  begun := h.begun
  written hphase := absurd rfl hphase
  reading hphase := nomatch hphase

/-- The request that was read is the first of those waiting. -/
theorem Inv.read (h : k.Inv format time dispatched answers) (hphase : k.phase = .reading)
    {r : Request} {rest : List UInt8}
    (hread : readMessage (requestSerde format time) k.inbox = .ok (r, rest)) :
    ∃ waiting, k.asked = dispatched ++ [r] ++ waiting ∧
      Written (requestSerde format time) waiting (rest ++ k.wire) := by
  obtain ⟨waiting, hasked, frames, hframes, hbytes⟩ := h.asked
  obtain ⟨waiting', frames', rfl, hframes', hrest⟩ :=
    Reader.of_read_eq_ok readMessage_nil hframes hbytes hread
  refine ⟨waiting', ?_, frames', hframes', hrest⟩
  rw [hasked, (h.reading hphase).1]
  simp

/-- A request to follow a log is read. -/
theorem Inv.follow (h : k.Inv format time dispatched answers) (hphase : k.phase = .reading)
    {r : Request} {rest : List UInt8}
    (hread : readMessage (requestSerde format time) k.inbox = .ok (r, rest)) :
    Inv format time { k with inbox := rest, phase := .following, followed := some r } dispatched
      answers where
  asked := h.read hphase hread
  begun := h.begun
  written _ := h.written (by rw [hphase]; intro hclosed; cases hclosed)
  reading hfollowing := nomatch hfollowing

/-- A request is dispatched and answered. -/
theorem Inv.handle (h : k.Inv format time dispatched answers) (hphase : k.phase = .reading)
    {r : Request} {rest : List UInt8}
    (hread : readMessage (requestSerde format time) k.inbox = .ok (r, rest)) :
    ((({ k with inbox := rest } : Conn).write format response cut)).Inv format time
      (dispatched ++ [r]) (answers ++ [response]) := by
  obtain ⟨hfollowed, hstreamed⟩ := h.reading hphase
  have hwritten := h.written (by rw [hphase]; intro hclosed; cases hclosed)
  rw [hstreamed, List.append_nil] at hwritten
  obtain ⟨hwire, hinbox, hasked, hfollowed', hstreamed'⟩ :=
    write_frame format { k with inbox := rest } response cut
  have hspec := write_spec (k := { k with inbox := rest }) response cut hwritten
  have hsent : answers ++ [response] ++ (({ k with inbox := rest } : Conn).write format response
      cut).streamed = answers ++ [response] := by
    rw [hstreamed', hstreamed, List.append_nil]
  constructor
  · obtain ⟨waiting, hwaiting, hbytes⟩ := h.read hphase hread
    refine ⟨waiting, ?_, ?_⟩
    · rw [hasked, hfollowed', hwaiting, hfollowed]
      simp
    · rwa [hinbox, hwire]
  · rw [hsent]
    rcases hspec with ⟨-, hall⟩ | ⟨-, hbegun⟩
    · exact hall.begun
    · exact hbegun
  · intro hopen
    rw [hsent]
    rcases hspec with ⟨-, hall⟩ | ⟨hclosed, -⟩
    · exact hall
    · exact absurd hclosed hopen
  · intro _
    exact ⟨hfollowed'.trans hfollowed, hstreamed'.trans hstreamed⟩

/-- A response that is no answer is written; after it the connection is not reading. -/
theorem Inv.stream (h : k.Inv format time dispatched answers) (hphase : k.phase ≠ .closed)
    {k' : Conn}
    (hk' : k' = ({ k with streamed := k.streamed ++ [response] } : Conn).write format response cut)
    {phase : ConnPhase} (hnext : phase = .closed ∨ phase = k'.phase ∧ k.phase = .following) :
    ({ k' with phase := phase } : Conn).Inv format time dispatched answers := by
  obtain ⟨hwire, hinbox, hasked, hfollowed, hstreamed⟩ :=
    write_frame format { k with streamed := k.streamed ++ [response] } response cut
  have hspec := write_spec (k := { k with streamed := k.streamed ++ [response] }) response cut
    (h.written hphase)
  rw [← hk'] at hwire hinbox hasked hfollowed hstreamed hspec
  have hsent : answers ++ k'.streamed = answers ++ k.streamed ++ [response] := by
    rw [hstreamed, List.append_assoc]
  constructor
  · obtain ⟨waiting, hwaiting, hbytes⟩ := h.asked
    refine ⟨waiting, ?_, ?_⟩
    · rw [hasked, hfollowed, hwaiting]
    · rwa [hinbox, hwire]
  · rw [hsent]
    rcases hspec with ⟨-, hall⟩ | ⟨-, hbegun⟩
    · exact hall.begun
    · exact hbegun
  · intro hopen
    rw [hsent]
    rcases hspec with ⟨-, hall⟩ | ⟨hclosed, -⟩
    · exact hall
    · rcases hnext with hnext | ⟨hnext, -⟩
      · exact absurd hnext hopen
      · exact absurd (hnext.trans hclosed) hopen
  · intro (hreading : phase = .reading)
    rcases hnext with hnext | ⟨hnext, hfollowing⟩
    · rw [hreading] at hnext
      cases hnext
    · rcases hspec with ⟨hsame, -⟩ | ⟨hclosed, -⟩
      · rw [← hnext, hreading, hfollowing] at hsame
        cases hsame
      · rw [← hnext, hreading] at hclosed
        cases hclosed

end Conn

/-! ## Runs -/

namespace Sockets
variable {s s' : Sockets σ} {e : SocketEvent σ}

/-- Every connection is in order. -/
def Inv (format : JsonFormat) (time : Serde DateTime) (dispatch : Request → σ → Wire.Response × σ)
    (s : Sockets σ) : Prop :=
  ∀ c, (s.conns c).Inv format time (s.dispatched c) (s.answers dispatch c)

/-- A step of one connection that dispatches nothing. -/
theorem Inv.setConn (h : s.Inv format time dispatch) {c : Nat} {k : Conn}
    (hk : k.Inv format time (s.dispatched c) (s.answers dispatch c)) :
    (s.setConn c k).Inv format time dispatch := by
  intro c'
  change (Function.update s.conns c k c').Inv format time (s.dispatched c') (s.answers dispatch c')
  by_cases hc : c' = c
  · rw [hc, Function.update_self]
    exact hk
  · rw [Function.update_of_ne hc]
    exact h c'

/-- A step of one connection that dispatches a request. -/
theorem Inv.answer (h : s.Inv format time dispatch) {c : Nat} {k : Conn} {r : Request}
    (hk : k.Inv format time (s.dispatched c ++ [r])
      (s.answers dispatch c ++ [(dispatch r s.daemon).1])) (daemon : σ) :
    ({ s.setConn c k with
      daemon := daemon
      handled := s.handled ++ [(c, r, s.daemon)] } : Sockets σ).Inv format time dispatch := by
  intro c'
  rw [dispatched, answers]
  change (Function.update s.conns c k c').Inv format time _ _
  by_cases hc : c' = c
  · subst hc
    rw [Function.update_self, List.filter_append, List.filter_cons_of_pos (by simp),
      List.filter_nil, List.map_append, List.map_append]
    exact hk
  · have hne : ¬ c = c' := fun heq => hc heq.symm
    rw [Function.update_of_ne hc, List.filter_append, List.filter_cons_of_neg (by simpa using hne),
      List.filter_nil, List.append_nil]
    exact h c'

theorem Inv.step (h : s.Inv format time dispatch) (hstep : s.step format time dispatch e = some s') :
    s'.Inv format time dispatch := by
  cases e with
  | send c r =>
    rw [Sockets.step] at hstep
    split at hstep
    · next frame hframe =>
      cases hstep
      exact h.setConn ((h c).send hframe)
    · cases hstep
  | arrive c n =>
    cases hstep
    exact h.setConn ((h c).arrive n)
  | receive c n =>
    cases hstep
    exact h.setConn ((h c).receive n)
  | handle c cut =>
    rw [Sockets.step] at hstep
    dsimp only at hstep
    split at hstep
    · next hphase =>
      split at hstep
      · next request inbox hread =>
        split at hstep
        · cases hstep
          exact h.setConn ((h c).follow hphase hread)
        · cases hstep
          exact h.answer ((h c).handle hphase hread) _
      · cases hstep
      · cases hstep
        exact h.setConn (h c).close
    · cases hstep
  | timeout c cut =>
    rw [Sockets.step] at hstep
    split at hstep
    · next hphase =>
      cases hstep
      refine h.setConn ((h c).stream ?_ rfl (.inl rfl))
      rw [hphase]
      intro hclosed
      cases hclosed
    · cases hstep
  | chunk c response cut =>
    rw [Sockets.step] at hstep
    split at hstep
    · next hphase =>
      cases hstep
      refine h.setConn ((h c).stream ?_ rfl (.inr ⟨rfl, hphase⟩))
      rw [hphase]
      intro hclosed
      cases hclosed
    · cases hstep
  | close c =>
    cases hstep
    exact h.setConn (h c).close
  | other daemon =>
    cases hstep
    exact h

theorem Inv.run {es : List (SocketEvent σ)} {daemon : σ}
    (hrun : exec (Sockets.step format time dispatch) { daemon := daemon } es = some s) :
    s.Inv format time dispatch := by
  have hinit : ({ daemon := daemon } : Sockets σ).Inv format time dispatch := fun _ => .init
  exact exec_preserves (fun _ _ _ hstep h => Inv.step h hstep) hrun hinit

end Sockets

/-- In any order of the steps of any connections and of the rest of the daemon: the requests of a
connection are dispatched once each in the order they were asked, and the client reads the answers
to them in that order, and after them what the connection streams; it reads all of them when
nothing is under way and the connection is open. -/
theorem each_client_reads_its_answers (format : JsonFormat) (time : Serde DateTime)
    (dispatch : Request → σ → Wire.Response × σ) (daemon : σ) (es : List (SocketEvent σ)) (s : Sockets σ)
    (hrun : exec (Sockets.step format time dispatch) { daemon := daemon } es = some s) (c : Nat) :
    let k := s.conns c
    let responses := s.answers dispatch c ++ k.streamed
    s.dispatched c ++ k.followed.toList <+: k.asked ∧ k.read format <+: responses ∧
      (k.phase ≠ .closed → k.outbox = [] → k.read format = responses) := by
  intro k responses
  have h := Sockets.Inv.run hrun c
  refine ⟨?_, h.begun.readAll rfl, ?_⟩
  · obtain ⟨waiting, hasked, -⟩ := h.asked
    rw [hasked]
    exact List.prefix_append _ _
  · intro hopen hempty
    have hwritten := h.written hopen
    rw [hempty, List.append_nil] at hwritten
    exact hwritten.readAll

/-- A daemon that counts its requests. -/
def countRequests : Request → Nat → Wire.Response × Nat
  | _, n => (.ok (toString n), n + 1)

/-- Two clients; the request of the first arrives in two pieces, and the second is served first. -/
def twoClients : List (SocketEvent Nat) := [
  .send 0 .listQueue, .send 1 .shutdown, .arrive 0 4, .arrive 1 100, .handle 1 none, .arrive 0 100,
  .handle 0 none, .receive 0 100]

theorem two_clients_read_their_answers : ∃ s,
    exec (Sockets.step .compact .int countRequests) { daemon := 0 } twoClients = some s ∧
      s.handled.length = 2 ∧
      (s.conns 0).read .compact = s.answers countRequests 0 ++ (s.conns 0).streamed := by
  obtain ⟨s, hrun, hhandled, hopen, hempty⟩ : ∃ s,
      exec (Sockets.step .compact .int countRequests) { daemon := 0 } twoClients = some s ∧
        (s.handled.length = 2 ∧ (s.conns 0).phase ≠ .closed ∧ (s.conns 0).outbox = []) :=
    exists_of_any (by decide +kernel)
  have hread := each_client_reads_its_answers .compact .int countRequests 0 twoClients s hrun 0
  exact ⟨s, hrun, hhandled, hread.2.2 hopen hempty⟩

end

end GreaterWill
