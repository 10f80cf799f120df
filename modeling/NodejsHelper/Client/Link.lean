/-
A browser client and the sockets at the other ends of its WebSockets, in any interleaving. Texts and packets
arrive in order (`Server.events_arrive`, `Server.delivered_in_order`), until an end closes: a socket drops a text
that is nested too deeply, queues nothing more from the packet its full queue refuses, and takes up nothing more
once it has ended. What a callback is given as a response is the answer of a socket to its call, and a channel is
shown subscribed when a socket has subscribed it.
-/
import NodejsHelper.Auth.Sample
import NodejsHelper.Client.Match
import NodejsHelper.Server.Arrival
import NodejsHelper.Server.Response

namespace NodejsHelper.SocketCluster

open Auth Strings Json EventLoop

variable (p : Primitives) (cfg : Config)

/-! ## Both ends -/

/-- A socket takes up texts, each with the clock it reads. -/
def attend (s : Socket) (texts : List (Sent × Clock)) : Socket × List Effect :=
  handleEvents p cfg s (texts.flatMap fun t => t.1.events.map fun ev => (ev, t.2))

/-- The packets among the effects of a handler. -/
def packets (effects : List Effect) : List Packet :=
  effects.filterMap fun e =>
    match e with
    | .send packet => some packet
    | _ => none

/-- What a node sends a client unasked: a ping, or an event of a channel. -/
inductive Unasked
  | ping
  | publish (channel : String) (data : Json) (h : Writable data)

def Unasked.packet : Unasked → Packet
  | .ping => .text "#1"
  | .publish channel data _ => .publish channel data

/-- The other end of a WebSocket: how many texts the socket has taken off it, those of them it took up, and the
packets the client is yet to receive. `closed` is the flag of the socket, behind which no packet is queued;
`ended` says that `cleanup` has run. -/
structure Link where
  taken : ℕ
  served : List (Sent × Clock)
  down : List Packet
  closed : Bool
  ended : Bool

/-- A client, and a link for each of its transports. -/
structure World where
  client : State Memory Op
  links : ℕ → Link

/-- The client goes on by itself, receives a packet, or a socket takes the next text, with room for so many packets
in its queue, sends a packet unasked, closes or ends. -/
inductive Move
  | act (l : Label Choice Task)
  | deliver (k : ℕ)
  | serve (k : ℕ) (clock : Clock) (room : ℕ)
  | push (k : ℕ) (u : Unasked)
  | close (k : ℕ)
  | finish (k : ℕ)

/-- The client takes up a text of a WebSocket. -/
def receives : Label Choice Task → Bool
  | .start (.wsMessage ..) => true
  | _ => false

variable (ids : ℕ → String)

/-- The socket of a link, whose id is `id`, as its handlers have left it. -/
def Link.session (id : String) (l : Link) : Socket := (attend p cfg (newSocket id) l.served).1

/-- The socket, without subscriptions once it has ended. -/
def Link.socket (id : String) (l : Link) : Socket :=
  if l.ended then { l.session p cfg id with subs := ∅ } else l.session p cfg id

/-- A socket takes a text: it drops one that is nested too deeply, and its queue refuses the packets it has no room
for, the first of which closes the socket. -/
def Link.serve (id : String) (l : Link) (text : Sent) (clock : Clock) (room : ℕ) : Link :=
  let texts := if text.Shallow then [(text, clock)] else []
  let answers := packets (attend p cfg (l.session p cfg id) texts).2
  { l with
    taken := l.taken + 1
    served := l.served ++ texts
    down := l.down ++ (if l.closed then [] else answers.take room)
    closed := l.closed || decide (room < answers.length) }

/-- One step of either end. The texts the client takes up are those of its packets; a socket takes the texts of its
WebSocket in order. What is left in `down` of a closed socket may never arrive. -/
def World.step (w : World) : Move → Option World
  | .act l => if receives l then none else (system.step w.client l).map fun client => ⟨client, w.links⟩
  | .deliver k =>
    match (w.links k).down with
    | [] => none
    | packet :: rest =>
      (system.step w.client (.start (.wsMessage k packet.marshal))).map fun client =>
        ⟨client, Function.update w.links k { w.links k with down := rest }⟩
  | .serve k clock room =>
    if (w.links k).ended then none
    else ((w.client.mem.transports k).sent[(w.links k).taken]?).map fun text =>
      ⟨w.client, Function.update w.links k ((w.links k).serve p cfg (ids k) text clock room)⟩
  | .push k u =>
    if (w.links k).closed then none
    else some ⟨w.client, Function.update w.links k { w.links k with down := (w.links k).down ++ [u.packet] }⟩
  | .close k => some ⟨w.client, Function.update w.links k { w.links k with closed := true }⟩
  | .finish k => some ⟨w.client, Function.update w.links k { w.links k with closed := true, ended := true }⟩

/-- A new client, and a new socket for each connection it will make. -/
def World.init : World := ⟨SocketCluster.init, fun _ => ⟨0, [], [], false, false⟩⟩

/-! ## Answers of a socket -/

/-- The socket has answered a text with a response. -/
def Link.Answered (id : String) (l : Link) (text : Sent) (rid : Int) (data : Option Json) (error : Option ErrObj) :
    Prop :=
  ∃ before clock after, l.served = before ++ (text, clock) :: after ∧
    .send (.response rid data error) ∈ (attend p cfg (attend p cfg (newSocket id) before).1 [(text, clock)]).2

variable {p cfg ids}

theorem attend_append (s : Socket) (texts texts' : List (Sent × Clock)) :
    attend p cfg s (texts ++ texts') = ((attend p cfg (attend p cfg s texts).1 texts').1,
      (attend p cfg s texts).2 ++ (attend p cfg (attend p cfg s texts).1 texts').2) := by
  rw [attend, List.flatMap_append, handleEvents_append]
  rfl

theorem attend_single (s : Socket) (e : EventObject) (clock : Clock) :
    attend p cfg s [(.single e, clock)] = handleEvent p cfg s e.toInEvent clock := by
  simp [attend, Sent.events, handleEvents]

/-- The call id of an event is one of the text. -/
theorem cid_of_event {text : Sent} {ev : InEvent} (h : ev ∈ text.events) {rid : Int} (hcid : ev.cid = some rid) :
    ∃ n ∈ text.cids, rid = n := by
  have hobject : ∀ e : EventObject, e.toInEvent.cid = some rid → ∃ n : ℕ, e.cid = some n ∧ rid = n := by
    intro e he
    have hmap : e.cid.map (fun n : ℕ => (n : Int)) = some rid := he
    obtain ⟨n, hn, rfl⟩ := Option.map_eq_some_iff.1 hmap
    exact ⟨n, hn, rfl⟩
  cases text with
  | single e =>
    rw [List.mem_singleton.1 h] at hcid
    obtain ⟨n, hn, hrid⟩ := hobject e hcid
    exact ⟨n, Option.mem_toList.2 hn, hrid⟩
  | batch es =>
    obtain ⟨e, he, rfl⟩ := List.mem_map.1 h
    obtain ⟨n, hn, hrid⟩ := hobject e hcid
    exact ⟨n, List.mem_filterMap.2 ⟨e, he, hn⟩, hrid⟩
  | pong => cases h
  | reply rid' error data =>
    rw [List.mem_singleton.1 h] at hcid
    cases hcid

theorem mem_packets {effects : List Effect} {packet : Packet} (h : packet ∈ packets effects) :
    .send packet ∈ effects := by
  obtain ⟨e, he, heq⟩ := List.mem_filterMap.1 h
  cases e <;> cases heq
  exact he

/-- Later texts change no answer. -/
theorem Link.Answered.mono {id : String} {l l' : Link} {text : Sent} {rid : Int} {data : Option Json}
    {error : Option ErrObj} (h : l.Answered p cfg id text rid data error) (hserved : l.served <+: l'.served) :
    l'.Answered p cfg id text rid data error := by
  obtain ⟨before, clock, after, hl, hsend⟩ := h
  obtain ⟨rest, hrest⟩ := hserved
  refine ⟨before, clock, after ++ rest, ?_, hsend⟩
  rw [← hrest, hl, List.append_assoc, List.cons_append]

theorem Link.Answered.mem_served {id : String} {l : Link} {text : Sent} {rid : Int} {data : Option Json}
    {error : Option ErrObj} (h : l.Answered p cfg id text rid data error) : ∃ clock, (text, clock) ∈ l.served := by
  obtain ⟨before, clock, after, hl, -⟩ := h
  exact ⟨clock, hl ▸ List.mem_append_right _ List.mem_cons_self⟩

/-- The response is for a call id of the text. -/
theorem Link.Answered.cid {id : String} {l : Link} {text : Sent} {rid : Int} {data : Option Json}
    {error : Option ErrObj} (h : l.Answered p cfg id text rid data error) : ∃ n ∈ text.cids, rid = n := by
  obtain ⟨before, clock, after, -, hsend⟩ := h
  obtain ⟨_, ev, clock', _, hevs, hev⟩ := mem_handleEvents hsend
  have hmem : (ev, clock') ∈ [(text, clock)].flatMap fun t => t.1.events.map fun ev => (ev, t.2) :=
    hevs ▸ List.mem_append_right _ List.mem_cons_self
  rw [List.flatMap_cons, List.flatMap_nil, List.append_nil] at hmem
  obtain ⟨ev', hev', heq⟩ := List.mem_map.1 hmem
  cases heq
  exact cid_of_event hev' (mem_handleEvent hev)

/-! ## Steps -/

/-- What a step does to a link. -/
inductive Link.Goes (p : Primitives) (cfg : Config) (id : String) (sent : List Sent) (l : Link) : Link → Prop
  | serve (text : Sent) (clock : Clock) (room : ℕ) :
      l.ended = false → text ∈ sent → Goes p cfg id sent l (l.serve p cfg id text clock room)
  | push (u : Unasked) : Goes p cfg id sent l { l with down := l.down ++ [u.packet] }
  | close (ended : Bool) : Goes p cfg id sent l { l with closed := true, ended := ended }

/-- What a step of the world is. -/
inductive World.Steps (p : Primitives) (cfg : Config) (ids : ℕ → String) (w : World) : World → Prop
  | act (l : Label Choice Task) (client : State Memory Op) :
      (∀ k text, l ≠ .start (.wsMessage k text)) → system.step w.client l = some client →
      Steps p cfg ids w ⟨client, w.links⟩
  | deliver (k : ℕ) (packet : Packet) (rest : List Packet) :
      (w.links k).down = packet :: rest →
      system.step w.client (.start (.wsMessage k packet.marshal)) =
        some ⟨w.client.mem, received w.client.mem k (onMessage packet.marshal)⟩ →
      Steps p cfg ids w ⟨⟨w.client.mem, received w.client.mem k (onMessage packet.marshal)⟩,
        Function.update w.links k { w.links k with down := rest }⟩
  | link (k : ℕ) (l : Link) :
      (w.links k).Goes p cfg (ids k) (w.client.mem.transports k).sent l →
      Steps p cfg ids w ⟨w.client, Function.update w.links k l⟩

theorem World.step_cases {w w' : World} {move : Move} (h : w.step p cfg ids move = some w') :
    World.Steps p cfg ids w w' := by
  cases move with
  | act l =>
    rw [World.step] at h
    split at h
    · cases h
    · rename_i hl
      obtain ⟨client, hclient, rfl⟩ := Option.map_eq_some_iff.1 h
      refine .act l client (fun k text heq => hl ?_) hclient
      rw [heq]
      rfl
  | deliver k =>
    rw [World.step] at h
    split at h
    · cases h
    · rename_i packet rest hdown
      obtain ⟨client, hclient, rfl⟩ := Option.map_eq_some_iff.1 h
      rcases step_iff.1 hclient with _ | _ | ⟨-, ops, m, -, hx⟩
      have hstart : start w.client.mem (.wsMessage k packet.marshal) = some (m, ops) := hx
      cases start_cases hstart with
      | wsMessage => exact .deliver k packet rest hdown hclient
  | serve k clock room =>
    rw [World.step] at h
    split at h
    · cases h
    · rename_i hended
      obtain ⟨text, htext, rfl⟩ := Option.map_eq_some_iff.1 h
      exact .link k _ (.serve text clock room (Bool.eq_false_iff.2 hended) (List.mem_of_getElem? htext))
  | push k u =>
    rw [World.step] at h
    split at h
    · cases h
    · cases h
      exact .link k _ (.push u)
  | close k =>
    cases h
    exact .link k _ (.close _)
  | finish k =>
    cases h
    exact .link k _ (.close true)

/-! ## The invariant -/

variable (p cfg ids) in
structure Linked (w : World) : Prop where
  client : ∃ tr, Transition.run system.step SocketCluster.init tr = some w.client
  served : ∀ k, ∀ t ∈ (w.links k).served, t.1 ∈ (w.client.mem.transports k).sent
  sendable : ∀ k, ∀ packet ∈ (w.links k).down, packet.Sendable
  down : ∀ k rid data error, .response rid data error ∈ (w.links k).down →
    ∃ text, (w.links k).Answered p cfg (ids k) text rid data error
  messages : ∀ k rid data error, .handle k (.response rid data error) ∈ w.client.stack →
    ∃ (n : Int) (err : Option ErrObj) (text : Sent), rid = .num (itoa n) ∧ error = err.map ErrObj.toJson ∧
      (w.links k).Answered p cfg (ids k) text n data err
  given : ∀ id cid error data, (id, Answer.response cid error data) ∈ w.client.mem.answered →
    id < w.client.mem.emitted ∧ ∃ k err, error = err.map ErrObj.toJson ∧ (w.links k).Answered p cfg (ids k)
      (.single ⟨(w.client.mem.calls id).event, (w.client.mem.calls id).data, some cid⟩) cid data err
  shown : ∀ ch, (w.client.mem.objects ch).state = .subscribed →
    ch < w.client.mem.made ∧ ∃ k n data, (w.links k).Answered p cfg (ids k)
      (subscribePacket (w.client.mem.objects ch).name n) n data none

theorem linked_init : Linked p cfg ids World.init where
  client := ⟨[], rfl⟩
  served := by rintro k t ⟨⟩
  sendable := by rintro k packet ⟨⟩
  down := by rintro k rid data error ⟨⟩
  messages k rid data error h := by cases List.mem_singleton.1 h
  given := by rintro id cid error data ⟨⟩
  shown := by rintro ch ⟨⟩

theorem hydrateError_toJson (err : Option ErrObj) : hydrateError (err.map ErrObj.toJson) = err.map ErrObj.toJson := by
  cases err <;> rfl

/-- A message a transport waits for is the answer to the text that asks for what the entry waits for. -/
theorem Linked.pending {w : World} (h : Linked p cfg ids w) {k cid : ℕ} {rid : Json} {data error : Option Json}
    {e : Entry} (hmem : .handle k (.response rid data error) ∈ w.client.stack)
    (hpending : (w.client.mem.transports k).pendingResponse rid = some (cid, e)) :
    w.client.mem.Knows e ∧ ∃ err text, error = err.map ErrObj.toJson ∧ w.client.mem.Asks cid text e ∧
      (w.links k).Answered p cfg (ids k) text cid data err := by
  obtain ⟨tr, hrun⟩ := h.client
  obtain ⟨-, -, hmatched⟩ := matched_run hrun
  obtain ⟨n, err, text, rfl, rfl, hanswered⟩ := h.messages k rid data error hmem
  have hentry := List.mem_of_find?_eq_some hpending
  have hfind : ((w.client.mem.transports k).callbackMap.find? fun e => itoa e.1 == itoa n) = some (cid, e) := hpending
  have hkey := List.find?_some hfind
  have hcid : n = cid := eq_of_itoa_ofNat (eq_of_beq hkey)
  obtain ⟨m, hm, hnm⟩ := hanswered.cid
  have hmcid : m = cid := Int.ofNat.inj (hnm.symm.trans hcid)
  obtain ⟨clock, hserved⟩ := hanswered.mem_served
  refine ⟨(hmatched.known k _ hentry).2, err, text, rfl, ?_, hcid ▸ hanswered⟩
  exact hmatched.asked k _ hentry text (Or.inl (h.served k _ hserved)) (hmcid ▸ hm)

theorem linked_act {w : World} {l : Label Choice Task} {client : State Memory Op} (h : Linked p cfg ids w)
    (hl : ∀ k text, l ≠ .start (.wsMessage k text)) (hstep : system.step w.client l = some client) :
    Linked p cfg ids ⟨client, w.links⟩ := by
  obtain ⟨tr, hrun⟩ := h.client
  obtain ⟨hsound, -, hmatched⟩ := matched_run hrun
  obtain ⟨hlater, hmessages⟩ := step_later hsound hmatched hstep hl
  refine ⟨⟨tr ++ [l], ?_⟩, fun k t ht => ?_, h.sendable, h.down, fun k rid data error hmem => ?_,
    fun id cid error data hmem => ?_, fun ch hch => ?_⟩
  · rw [Transition.run_append, hrun]
    simp [hstep]
  · have hsent := h.served k t ht
    by_cases hk : k < w.client.mem.created
    · exact hlater.texts k hk hsent
    · rw [(hmatched.unborn k (Nat.not_lt.1 hk)).2] at hsent
      cases hsent
  · exact h.messages k rid data error (hmessages _ hmem rfl)
  · rcases hlater.answered _ hmem with hold | hnone | ⟨op, hop, k, rid, data', error', cid', rfl, hpending, heq⟩
    · obtain ⟨hid, k, err, herr, hanswered⟩ := h.given id cid error data hold
      refine ⟨hid.trans_le hlater.emitted, k, err, herr, ?_⟩
      rw [(hlater.calls id hid).1, (hlater.calls id hid).2]
      exact hanswered
    · exact absurd rfl (hnone cid error data)
    · cases heq
      obtain ⟨hid, err, text, rfl, rfl, hanswered⟩ := h.pending hop hpending
      refine ⟨lt_of_lt_of_le hid hlater.emitted, k, err, hydrateError_toJson err, ?_⟩
      rw [(hlater.calls id hid).1, (hlater.calls id hid).2]
      exact hanswered
  · rcases hlater.subscribed ch hch with hold | ⟨op, hop, k, rid, data, error, cid, rfl, hpending, hnone⟩
    · obtain ⟨hlt, k, n, data, hanswered⟩ := h.shown ch hold
      refine ⟨hlt.trans_le hlater.made, k, n, data, ?_⟩
      rw [hlater.names ch hlt]
      exact hanswered
    · obtain ⟨hlt, err, text, rfl, rfl, hanswered⟩ := h.pending hop hpending
      rw [hydrateError_toJson, Option.map_eq_none_iff] at hnone
      subst hnone
      refine ⟨lt_of_lt_of_le hlt hlater.made, k, cid, data, ?_⟩
      rw [hlater.names ch hlt]
      exact hanswered

/-- The links go on while the memory of the client stays. -/
theorem Linked.relink {w : World} {links : ℕ → Link} {stack : List Op} (h : Linked p cfg ids w)
    (hclient : ∃ tr, Transition.run system.step SocketCluster.init tr = some ⟨w.client.mem, stack⟩)
    (hgrown : ∀ k, (w.links k).served <+: (links k).served)
    (hserved : ∀ k, ∀ t ∈ (links k).served, t ∈ (w.links k).served ∨ t.1 ∈ (w.client.mem.transports k).sent)
    (hsendable : ∀ k, ∀ packet ∈ (links k).down, packet ∈ (w.links k).down ∨ packet.Sendable)
    (hdown : ∀ k rid data error, .response rid data error ∈ (links k).down →
      .response rid data error ∈ (w.links k).down ∨ ∃ text, (links k).Answered p cfg (ids k) text rid data error)
    (hstack : ∀ k rid data error, .handle k (.response rid data error) ∈ stack →
      .handle k (.response rid data error) ∈ w.client.stack ∨ ∃ (n : Int) (d : Option Json) (err : Option ErrObj),
        .response n d err ∈ (w.links k).down ∧ rid = .num (itoa n) ∧ data = d ∧ error = err.map ErrObj.toJson) :
    Linked p cfg ids ⟨⟨w.client.mem, stack⟩, links⟩ where
  client := hclient
  served k t ht := (hserved k t ht).elim (h.served k t) id
  sendable k packet hpacket := (hsendable k packet hpacket).elim (h.sendable k packet) id
  down k rid data error hmem := by
    rcases hdown k rid data error hmem with hold | hnew
    · obtain ⟨text, hanswered⟩ := h.down k rid data error hold
      exact ⟨text, hanswered.mono (hgrown k)⟩
    · exact hnew
  messages k rid data error hmem := by
    rcases hstack k rid data error hmem with hold | ⟨n, d, err, hold, hrid, rfl, herr⟩
    · obtain ⟨n, err, text, hrid, herr, hanswered⟩ := h.messages k rid data error hold
      exact ⟨n, err, text, hrid, herr, hanswered.mono (hgrown k)⟩
    · obtain ⟨text, hanswered⟩ := h.down k n data err hold
      exact ⟨n, err, text, hrid, herr, hanswered.mono (hgrown k)⟩
  given id cid error data hmem := by
    obtain ⟨hid, k, err, herr, hanswered⟩ := h.given id cid error data hmem
    exact ⟨hid, k, err, herr, hanswered.mono (hgrown k)⟩
  shown ch hch := by
    obtain ⟨hlt, k, n, data, hanswered⟩ := h.shown ch hch
    exact ⟨hlt, k, n, data, hanswered.mono (hgrown k)⟩

/-- What an update of one link does to each. -/
theorem update_link (links : ℕ → Link) (k : ℕ) (l : Link) (j : ℕ) :
    Function.update links k l j = links j ∨ j = k ∧ Function.update links k l j = l := by
  by_cases hj : j = k
  · subst hj
    exact Or.inr ⟨rfl, Function.update_self ..⟩
  · exact Or.inl (Function.update_of_ne hj ..)

/-- A response is read from a packet that is one. -/
theorem response_of_incoming {packet : Packet} {rid : Json} {data error : Option Json}
    (h : packet.incoming = .response rid data error) :
    ∃ (n : Int) (err : Option ErrObj), packet = .response n data err ∧ rid = .num (itoa n) ∧
      error = err.map ErrObj.toJson := by
  cases packet with
  | text s =>
    rw [Packet.incoming] at h
    split at h <;> cases h
  | response n d err => cases h; exact ⟨n, err, rfl, rfl, rfl⟩
  | event name d cid => cases h
  | publish channel d => cases h

/-- A link takes texts of its WebSocket up behind the others, and queues packets that can be sent, responses among
them that answer what it took up. -/
theorem Link.Goes.grows {id : String} {sent : List Sent} {l l' : Link} (h : l.Goes p cfg id sent l') :
    l.served <+: l'.served ∧ (∀ t ∈ l'.served, t ∈ l.served ∨ t.1 ∈ sent) ∧
      (∀ packet ∈ l'.down, packet ∈ l.down ∨ packet.Sendable) ∧
      ∀ rid data error, .response rid data error ∈ l'.down →
        .response rid data error ∈ l.down ∨ ∃ text, l'.Answered p cfg id text rid data error := by
  cases h with
  | serve text clock room _ htext =>
    rw [Link.serve]
    by_cases hshallow : text.Shallow
    · simp only [if_pos hshallow]
      have hanswer : ∀ packet ∈ (if l.closed = true then [] else
          (packets (attend p cfg (l.session p cfg id) [(text, clock)]).2).take room),
          .send packet ∈ (attend p cfg (l.session p cfg id) [(text, clock)]).2 := by
        intro packet hpacket
        split at hpacket
        · cases hpacket
        · exact mem_packets (List.mem_of_mem_take hpacket)
      refine ⟨List.prefix_append _ _, fun t ht => ?_, fun packet hpacket => ?_, fun rid data error hmem => ?_⟩
      · refine (List.mem_append.1 ht).imp_right fun ht => ?_
        rw [List.mem_singleton.1 ht]
        exact htext
      · refine (List.mem_append.1 hpacket).imp_right fun hpacket => ?_
        obtain ⟨_, ev, clock', _, _, hsend⟩ := mem_handleEvents (hanswer packet hpacket)
        exact sendable_send hsend
      · refine (List.mem_append.1 hmem).imp_right fun hmem => ?_
        exact ⟨text, l.served, clock, [], rfl, hanswer _ hmem⟩
    · simp only [if_neg hshallow]
      have hnone : packets (attend p cfg (l.session p cfg id) []).2 = [] := rfl
      rw [hnone, List.take_nil, ite_self, List.append_nil, List.append_nil]
      exact ⟨List.prefix_rfl, fun _ => Or.inl, fun _ => Or.inl, fun _ _ _ => Or.inl⟩
  | push u =>
    refine ⟨List.prefix_rfl, fun _ => Or.inl, fun packet hpacket => ?_, fun rid data error hmem => ?_⟩
    · refine (List.mem_append.1 hpacket).imp_right fun hpacket => ?_
      rw [List.mem_singleton.1 hpacket]
      cases u with
      | ping => exact Or.inl rfl
      | publish channel data hdata => exact hdata
    · rcases List.mem_append.1 hmem with hmem | hmem
      · exact Or.inl hmem
      · cases u <;> cases List.mem_singleton.1 hmem
  | close ended => exact ⟨List.prefix_rfl, fun _ => Or.inl, fun _ => Or.inl, fun _ _ _ => Or.inl⟩

theorem linked_step {w w' : World} (h : Linked p cfg ids w) (hs : World.Steps p cfg ids w w') :
    Linked p cfg ids w' := by
  obtain ⟨tr, hrun⟩ := h.client
  cases hs with
  | act l client hl hstep => exact linked_act h hl hstep
  | deliver k packet rest hdown hstep =>
    have hpacket : packet ∈ (w.links k).down := hdown ▸ List.mem_cons_self
    have hlink : ∀ j, (Function.update w.links k { w.links k with down := rest } j).served = (w.links j).served ∧
        (Function.update w.links k { w.links k with down := rest } j).down ⊆ (w.links j).down := by
      intro j
      rcases update_link w.links k { w.links k with down := rest } j with heq | ⟨rfl, heq⟩
      · rw [heq]
        exact ⟨rfl, List.Subset.refl _⟩
      · rw [heq, hdown]
        exact ⟨rfl, List.subset_cons_self _ _⟩
    refine h.relink ⟨tr ++ [.start (.wsMessage k packet.marshal)], ?_⟩ (fun j => (hlink j).1 ▸ List.prefix_refl _)
      (fun j t ht => Or.inl ((hlink j).1 ▸ ht)) (fun j _ hmem => Or.inl ((hlink j).2 hmem))
      (fun j rid data error hmem => Or.inl ((hlink j).2 hmem)) fun j rid data error hmem => Or.inr ?_
    · rw [Transition.run_append, hrun]
      simp [hstep]
    · rw [received, onMessage_marshal (h.sendable k packet hpacket)] at hmem
      rcases List.mem_append.1 hmem with hmem | hmem
      · split at hmem
        · cases List.mem_singleton.1 hmem
        · cases hmem
      · obtain ⟨rfl, hincoming⟩ := Op.handle.inj (List.mem_singleton.1 hmem)
        obtain ⟨n, err, rfl, hrid, herr⟩ := response_of_incoming hincoming.symm
        exact ⟨n, data, err, hpacket, hrid, rfl, herr⟩
  | link k l hgoes =>
    obtain ⟨hgrown, hserved, hsendable, hdown⟩ := hgoes.grows
    have hlink := update_link w.links k l
    refine h.relink ⟨tr, hrun⟩ (fun j => ?_) (fun j t ht => ?_) (fun j packet hpacket => ?_)
      (fun j rid data error hmem => ?_) fun j rid data error hmem => Or.inl hmem
    · rcases hlink j with heq | ⟨rfl, heq⟩ <;> rw [heq]
      exact hgrown
    · rcases hlink j with heq | ⟨rfl, heq⟩ <;> rw [heq] at ht
      · exact Or.inl ht
      · exact hserved t ht
    · rcases hlink j with heq | ⟨rfl, heq⟩ <;> rw [heq] at hpacket
      · exact Or.inl hpacket
      · exact hsendable packet hpacket
    · rcases hlink j with heq | ⟨rfl, heq⟩ <;> rw [heq] at hmem ⊢
      · exact Or.inl hmem
      · exact hdown rid data error hmem

/-- In every run of the two ends. -/
theorem linked_run {moves : List Move} {w : World}
    (h : Transition.run (World.step p cfg ids) World.init moves = some w) : Linked p cfg ids w :=
  Transition.run_invariant (fun _ _ _ hi hs => linked_step hi (World.step_cases hs)) linked_init h

/-! ### Packets instead of their texts -/

variable (p cfg ids) in
/-- The same with the client taking up the packets themselves, flat texts, and sockets that are open and have room
for all of their answers. -/
def World.hear (w : World) : Move → Option World
  | .deliver k =>
    match w.client.stack, w.links k with
    | [], ⟨taken, served, packet :: rest, closed, ended⟩ =>
      if (w.client.mem.transports k).readyState = .opened then
        some ⟨⟨w.client.mem, received w.client.mem k [packet.incoming]⟩,
          Function.update w.links k ⟨taken, served, rest, closed, ended⟩⟩
      else none
    | _, _ => none
  | .serve k clock room =>
    match w.links k with
    | ⟨taken, served, down, false, false⟩ =>
      match (w.client.mem.transports k).sent[taken]? with
      | some text =>
        let answers := packets (attend p cfg (attend p cfg (newSocket (ids k)) served).1 [(text, clock)]).2
        if text.flat = true ∧ answers.length ≤ room then
          some ⟨w.client,
            Function.update w.links k ⟨taken + 1, served ++ [(text, clock)], down ++ answers, false, false⟩⟩
        else none
      | none => none
    | _ => none
  | move => w.step p cfg ids move

theorem step_of_hear {w w' : World} {move : Move} (h : Linked p cfg ids w) (hs : w.hear p cfg ids move = some w') :
    w.step p cfg ids move = some w' := by
  cases move with
  | deliver k =>
    rw [World.hear] at hs
    split at hs
    · rename_i taken served packet rest closed ended hstack hlink
      split at hs
      · rename_i hopen
        have hdown : (w.links k).down = packet :: rest := by rw [hlink]
        have hpacket : packet ∈ (w.links k).down := hdown ▸ List.mem_cons_self
        have hstart : start w.client.mem (.wsMessage k packet.marshal) =
            some (w.client.mem, received w.client.mem k [packet.incoming]) := by
          rw [start, if_pos hopen, onMessage_marshal (h.sendable k packet hpacket)]
        have hstep : system.step w.client (.start (.wsMessage k packet.marshal)) =
            some ⟨w.client.mem, received w.client.mem k [packet.incoming]⟩ := step_iff.2 (.start _ _ _ hstack hstart)
        rw [World.step, hlink]
        simp only [hstep, Option.map_some, hs]
      · cases hs
    · cases hs
  | serve k clock room =>
    rw [World.hear] at hs
    split at hs
    · rename_i taken served down hlink
      split at hs
      · rename_i text htext
        dsimp only at hs
        split at hs
        · rename_i hserved
          rw [World.step, hlink, htext]
          simp only [Option.map_some, Link.serve, Link.session, if_pos (Sent.shallow_of_flat hserved.1),
            List.take_of_length_le hserved.2, not_lt.2 hserved.2, Bool.false_eq_true, if_false, decide_false,
            Bool.or_false, hs]
        · cases hs
      · cases hs
    · cases hs
  | act | push | close | finish => exact hs

/-- A run on packets is one on their texts. -/
theorem run_of_hear {moves : List Move} {w w' : World} (hw : Linked p cfg ids w)
    (h : Transition.run (World.hear p cfg ids) w moves = some w') :
    Transition.run (World.step p cfg ids) w moves = some w' := by
  induction moves generalizing w with
  | nil => exact h
  | cons move moves ih =>
    obtain ⟨m, hm, h⟩ := Transition.run_cons_some h
    have hstep := step_of_hear hw hm
    rw [Transition.run_cons, hstep]
    exact ih (linked_step hw (World.step_cases hstep)) h

/-! ## Results -/

/-- In every interleaving, a response a callback was given is what the socket of one of the client's WebSockets
answered to the event and the data of this very call, under its call id. -/
theorem response_of_call (moves : List Move) {w : World}
    (h : Transition.run (World.step p cfg ids) World.init moves = some w) {id cid : ℕ} {error data : Option Json}
    (hmem : (id, Answer.response cid error data) ∈ w.client.mem.answered) :
    ∃ k before clock after err,
      (w.links k).served = before ++
        (.single ⟨(w.client.mem.calls id).event, (w.client.mem.calls id).data, some cid⟩, clock) :: after ∧
      .send (.response cid data err) ∈ (handleEvent p cfg (attend p cfg (newSocket (ids k)) before).1
        ⟨(w.client.mem.calls id).event, (w.client.mem.calls id).data, some cid⟩ clock).2 ∧
      error = err.map ErrObj.toJson := by
  obtain ⟨-, k, err, herr, before, clock, after, hserved, hsend⟩ := (linked_run h).given id cid error data hmem
  rw [attend_single] at hsend
  exact ⟨k, before, clock, after, err, hserved, hsend, herr⟩

/-- Listeners return. -/
def sampleGoing (n : ℕ) : List Move := List.replicate n (.act (.run .done 0))

/-- A client connects and shakes hands with its socket. -/
def sampleOpened : List Move :=
  sampleGoing 4 ++ [.act (.start (.wsOpen 0 .null))] ++ sampleGoing 1 ++ [.serve 0 sampleClock 256, .deliver 0] ++
    sampleGoing 9

/-- Its page calls an event the socket does not know. -/
def sampleCalled : List Move :=
  sampleOpened ++ [.act (.start .page), .act (.run (.call (.emit "x" none true)) 0)] ++ sampleGoing 7 ++
    [.serve 0 sampleClock 256, .deliver 0] ++ sampleGoing 5

theorem response_of_call_sample :
    ∃ w data error, Transition.run (World.step sample (defaultConfig "secret" sampleKey "node") fun _ => "socket")
        World.init sampleCalled = some w ∧ (0, Answer.response 2 error data) ∈ w.client.mem.answered ∧
      ∃ k before clock after err, (w.links k).served = before ++
          (.single ⟨(w.client.mem.calls 0).event, (w.client.mem.calls 0).data, some 2⟩, clock) :: after ∧
        .send (.response 2 data err) ∈ (handleEvent sample (defaultConfig "secret" sampleKey "node")
          (attend sample (defaultConfig "secret" sampleKey "node") (newSocket "socket") before).1
          ⟨(w.client.mem.calls 0).event, (w.client.mem.calls 0).data, some 2⟩ clock).2 ∧
        error = err.map ErrObj.toJson := by
  obtain ⟨w, data, error, hw, hmem⟩ : ∃ w data error,
      Transition.run (World.hear sample (defaultConfig "secret" sampleKey "node") fun _ => "socket") World.init
        sampleCalled = some w ∧ w.client.mem.answered = [(0, Answer.response 2 error data)] := ⟨_, _, _, rfl, rfl⟩
  have hrun := run_of_hear linked_init hw
  have hanswered : (0, Answer.response 2 error data) ∈ w.client.mem.answered := hmem ▸ List.mem_singleton_self _
  exact ⟨w, data, error, hrun, hanswered, response_of_call sampleCalled hrun hanswered⟩

/-- In every interleaving, a channel the client shows as subscribed has been subscribed by the socket of one of
its WebSockets, when it took up a `#subscribe` of the channel, and this socket still has it among its
subscriptions unless it has taken up an `#unsubscribe` of the channel, or has ended, since. -/
theorem subscribed_by_socket (moves : List Move) {w : World}
    (h : Transition.run (World.step p cfg ids) World.init moves = some w) {ch : ℕ}
    (hstate : (w.client.mem.objects ch).state = .subscribed) :
    ∃ k n before clock after,
      (w.links k).served = before ++ (subscribePacket (w.client.mem.objects ch).name n, clock) :: after ∧
      (w.client.mem.objects ch).name ∈ (attend p cfg (newSocket (ids k))
        (before ++ [(subscribePacket (w.client.mem.objects ch).name n, clock)])).1.subs ∧
      ((w.client.mem.objects ch).name ∈ ((w.links k).socket p cfg (ids k)).subs ∨
        (∃ t ∈ after, ∃ ev ∈ t.1.events, ev.Unsubscribes (w.client.mem.objects ch).name) ∨
        (w.links k).ended = true) := by
  obtain ⟨-, k, n, data, before, clock, after, hserved, hsend⟩ := (linked_run h).shown ch hstate
  generalize (w.client.mem.objects ch).name = name at *
  have hsubs : name ∈ (attend p cfg (newSocket (ids k)) (before ++ [(subscribePacket name n, clock)])).1.subs := by
    rw [subscribePacket, attend_single] at hsend
    rw [attend_append, subscribePacket, attend_single]
    have hmem : (parseChannelPayload (subscribeEvent name n).data).1 ∈
        (handleSubscribe cfg (attend p cfg (newSocket (ids k)) before).1 (subscribeEvent name n)).1.subs :=
      (mem_handleSubscribe hsend).2 rfl
    rw [parseChannelPayload_subscribeEvent] at hmem
    exact hmem
  refine ⟨k, n, before, clock, after, hserved, hsubs, ?_⟩
  by_cases hended : (w.links k).ended = true
  · exact Or.inr (Or.inr hended)
  by_cases hleft : ∃ t ∈ after, ∃ ev ∈ t.1.events, ev.Unsubscribes name
  · exact Or.inr (Or.inl hleft)
  refine Or.inl ?_
  have hsplit : (w.links k).served = (before ++ [(subscribePacket name n, clock)]) ++ after := by
    rw [hserved, List.append_assoc, List.singleton_append]
  rw [Link.socket, if_neg hended, Link.session, hsplit, attend_append]
  refine subs_handleEvents hsubs fun e he => ?_
  obtain ⟨t, ht, he⟩ := List.mem_flatMap.1 he
  obtain ⟨ev, hev, rfl⟩ := List.mem_map.1 he
  exact fun hun => hleft ⟨t, ht, ev, hev, hun⟩

/-- A page logs its visitor in and subscribes to the chat. -/
def sampleSubscribed : List Move :=
  sampleOpened ++
    [.act (.start .page), .act (.run (.call (.emit "login" (some (.obj
      [("hash", .str (sampleDigest ++ ".1700000000")), ("chanelName", .str "chat_55")])) false)) 0)] ++ sampleGoing 7 ++
    [.act (.start .page), .act (.run (.call (.subscribe "chat_55")) 0)] ++ sampleGoing 6 ++
    [.serve 0 sampleClock 256, .serve 0 sampleClock 256, .deliver 0] ++ sampleGoing 8 ++ [.deliver 0] ++ sampleGoing 5

theorem subscribed_by_socket_sample :
    ∃ w, Transition.run (World.step sample (defaultConfig "secret" sampleKey "node") fun _ => "socket") World.init
        sampleSubscribed = some w ∧ (w.client.mem.objects 0).state = .subscribed ∧
      ∃ k n before clock after,
        (w.links k).served = before ++ (subscribePacket (w.client.mem.objects 0).name n, clock) :: after ∧
        (w.client.mem.objects 0).name ∈ (attend sample (defaultConfig "secret" sampleKey "node") (newSocket "socket")
          (before ++ [(subscribePacket (w.client.mem.objects 0).name n, clock)])).1.subs ∧
        ((w.client.mem.objects 0).name ∈
            ((w.links k).socket sample (defaultConfig "secret" sampleKey "node") "socket").subs ∨
          (∃ t ∈ after, ∃ ev ∈ t.1.events, ev.Unsubscribes (w.client.mem.objects 0).name) ∨
          (w.links k).ended = true) := by
  obtain ⟨w, hw, hstate⟩ : ∃ w,
      Transition.run (World.hear sample (defaultConfig "secret" sampleKey "node") fun _ => "socket") World.init
        sampleSubscribed = some w ∧ (w.client.mem.objects 0).state = .subscribed := ⟨_, rfl, rfl⟩
  have hrun := run_of_hear linked_init hw
  exact ⟨w, hrun, hstate, subscribed_by_socket sampleSubscribed hrun hstate⟩

end NodejsHelper.SocketCluster
