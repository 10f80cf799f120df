/-
One websocket connection of the server (`socket.go`): the state its read loop owns, the events it
decodes, and the handlers. No handler reads what other goroutines write, so a handler is a function
of the socket's own state, the event and the clock; what it does to the rest of the server (packets
for the outbound queue, publishes, hub calls, a close) is the list of its effects, in program order.
-/
import NodejsHelper.Auth.Token
import NodejsHelper.Lib.Json
import Mathlib.Data.Finset.Card

namespace NodejsHelper

open Auth Strings

/-! ## Configuration -/

/-- The settings the socket and hub code reads (`config.go`); `loadConfig` raises a send buffer
below one to one. -/
structure Config where
  secretHash : String
  authKey : List UInt8
  trackVisitors : Bool
  channelLimit : Int
  sendBuffer : Nat
  sendBuffer_pos : 0 < sendBuffer
  pingTimeoutMs : Int
  allowClientPublish : Bool
  strictChannelBinding : Bool
  restrictClientPublish : Bool
  instanceID : String

/-- The settings `loadConfig` arrives at when only the secret, the signing key and the id are set. -/
def defaultConfig (secretHash : String) (authKey : List UInt8) (instanceID : String) : Config where
  secretHash := secretHash
  authKey := authKey
  trackVisitors := true
  channelLimit := 1000
  sendBuffer := 256
  sendBuffer_pos := by decide
  pingTimeoutMs := 20000
  allowClientPublish := true
  strictChannelBinding := true
  restrictClientPublish := false
  instanceID := instanceID

/-! ## Wire formats -/

/-- The dehydrated error of a response (`errObj`). -/
structure ErrObj where
  name : String
  message : String

/-- The object an error is sent as. -/
def ErrObj.toJson (e : ErrObj) : Json := .obj [("name", .str e.name), ("message", .str e.message)]

/-- A decoded client event (`inEvent`). -/
structure InEvent where
  event : String
  data : Option Json
  cid : Option Int

/-- The `#handshake` of the browser client, with the token it has stored. -/
def handshakeEvent (authToken : Option String) (cid : Int) : InEvent :=
  ⟨"#handshake", some (.obj [("authToken", authToken.elim .null .str)]), some cid⟩

/-- The `login` of the widget; `tokenvisitor` answers the hash and the instance id. -/
def loginEvent (hash chanelName : String) (instanceID : Nat) (cid : Int) : InEvent :=
  ⟨"login", some (.obj [("hash", .str hash), ("chanelName", .str chanelName),
    ("instance_id", .num (itoa instanceID))]), some cid⟩

/-- The `#subscribe` of the browser client. -/
def subscribeEvent (channel : String) (cid : Int) : InEvent :=
  ⟨"#subscribe", some (.obj [("channel", .str channel)]), some cid⟩

/-- What is handed to the outbound queue: a bare ping or pong text, a response (`outResponse`), an
event of the server (`outEvent`) or a `#publish` packet (`outPublishEvent`). -/
inductive Packet
  | text (s : String)
  | response (rid : Int) (data : Option Json) (error : Option ErrObj)
  | event (name : String) (data : Option Json) (cid : Option Int)
  | publish (channel : String) (data : Json)

/-- The members of `inEvent`. -/
def InEvent.field (key : String) (v : Json) (ev : InEvent) : InEvent × Bool :=
  if Json.keyMatches key "event" then
    ({ ev with event := (Json.intoString ev.event v).1 }, (Json.intoString ev.event v).2)
  else if Json.keyMatches key "data" then ({ ev with data := (Json.intoRaw v).1 }, (Json.intoRaw v).2)
  else if Json.keyMatches key "cid" then
    ({ ev with cid := (Json.intoIntPtr ev.cid v).1 }, (Json.intoIntPtr ev.cid v).2)
  else (ev, true)

/-- `json.Unmarshal` into an `inEvent`. -/
def decodeEvent (v : Json) : InEvent × Bool := Json.intoStruct InEvent.field ⟨"", none, none⟩ v

/-- The events of one frame: a batch when it is an array, a single event otherwise; none at all when
the frame does not decode. -/
def decodeMessage (v : Json) : List InEvent :=
  if Json.maxNestingDepth < v.depth then []
  else
    match v with
    | .arr items =>
      if (items.map decodeEvent).all (·.2) then (items.map decodeEvent).map (·.1) else []
    | v => if (decodeEvent v).2 then [(decodeEvent v).1] else []

/-! ## Payloads -/

/-- `parseChannelPayload`: the channel, empty when malformed, and the batch flag. -/
def parseChannelPayload : Option Json → String × Bool
  | none => ("", false)
  | some (.str channel) => (channel, false)
  | some v =>
    match Json.intoStruct (fun key v (r : String × Bool) =>
      if Json.keyMatches key "channel" then (((Json.intoString r.1 v).1, r.2), (Json.intoString r.1 v).2)
      else if Json.keyMatches key "batch" then ((r.1, (Json.intoBool r.2 v).1), (Json.intoBool r.2 v).2)
      else (r, true)) ("", false) v with
    | (r, true) => r
    | (_, false) => ("", false)

/-- The `authToken` of a `#handshake`; decoding errors are ignored. -/
def decodeHandshake : Option Json → String
  | none => ""
  | some v => (Json.intoStruct (fun key v (r : String) =>
      if Json.keyMatches key "authToken" then Json.intoString r v else (r, true)) "" v).1

/-- The token text of an `#authenticate`; decoding errors are ignored. -/
def decodeAuthenticate : Option Json → String
  | none => ""
  | some v => (Json.intoString "" v).1

/-- The data of a `login`. -/
structure LoginRequest where
  hash : Option Json
  chanelName : String
  instanceID : Option Int

/-- `json.Unmarshal` into the data of a `login`. -/
def decodeLogin (v : Json) : LoginRequest × Bool :=
  Json.intoStruct (fun key v (r : LoginRequest) =>
    if Json.keyMatches key "hash" then ({ r with hash := (Json.intoRaw v).1 }, (Json.intoRaw v).2)
    else if Json.keyMatches key "chanelName" then
      ({ r with chanelName := (Json.intoString r.chanelName v).1 }, (Json.intoString r.chanelName v).2)
    else if Json.keyMatches key "instance_id" then
      ({ r with instanceID := (Json.intoIntPtr r.instanceID v).1 }, (Json.intoIntPtr r.instanceID v).2)
    else (r, true)) ⟨none, "", none⟩ v

/-- The nested form `{hash, instance_id}` newer clients send as the hash. -/
def decodeNestedHash (v : Json) : (String × Option Int) × Bool :=
  Json.intoStruct (fun key v (r : String × Option Int) =>
    if Json.keyMatches key "hash" then (((Json.intoString r.1 v).1, r.2), (Json.intoString r.1 v).2)
    else if Json.keyMatches key "instance_id" then
      ((r.1, (Json.intoIntPtr r.2 v).1), (Json.intoIntPtr r.2 v).2)
    else (r, true)) ("", none) v

/-- The hash and the instance id of a `login`, absent when the nested form does not decode. -/
def loginHash (r : LoginRequest) : Option (String × Int) :=
  match r.hash with
  | some (.str hash) => some (hash, r.instanceID.getD 0)
  | some (.obj members) =>
    match decodeNestedHash (.obj members) with
    | (nested, true) => some (nested.1, nested.2.getD 0)
    | (_, false) => none
  | _ => some ("", r.instanceID.getD 0)

/-- The data of a `#publish`: its channel and its payload. -/
def decodePublish (v : Json) : (String × Option Json) × Bool :=
  Json.intoStruct (fun key v (r : String × Option Json) =>
    if Json.keyMatches key "channel" then (((Json.intoString r.1 v).1, r.2), (Json.intoString r.1 v).2)
    else if Json.keyMatches key "data" then ((r.1, (Json.intoRaw v).1), (Json.intoRaw v).2)
    else (r, true)) ("", none) v

/-! ## The socket -/

/-- The fields of a `Socket` under its mutex, which only its own read loop writes. -/
structure Socket where
  id : String
  handshaken : Bool
  authed : Bool
  token : Option AuthToken
  signedToken : String
  subs : Finset String
  callID : Int

/-- `newSocket`. -/
def newSocket (id : String) : Socket := ⟨id, false, false, none, "", ∅, 0⟩

namespace Socket

def setHandshaken (s : Socket) : Socket := { s with handshaken := true }

def setAuthState (s : Socket) (token : AuthToken) (signed : String) : Socket :=
  { s with token := some token, signedToken := signed, authed := true }

def setUnauthenticated (s : Socket) : Socket := { s with token := none, signedToken := "", authed := false }

/-- `nextCallID`. -/
def nextCallID (s : Socket) : Socket := { s with callID := s.callID + 1 }

end Socket

/-- What a handler does outside its socket. -/
inductive Effect
  | send (packet : Packet)
  | presence (channel : String) (status : Bool) (vid : String)
  | publish (channel : String) (data : Option Json)
  | hubAdd (channel : String)
  | hubRemove (channel : String)
  | close (code : Nat) (reason : String)

/-- The readings of `time.Now().Unix()` one event can take, in order: the check of a hash or a
token, the expiry of a minted token, and its issue time. An `int64` holds what goes into the token. -/
structure Clock where
  check : Int
  mint : Int
  issue : Int
  mint_fits : IsInt64 mint ∧ IsInt64 (mint + 12 * 60 * 60) := by decide
  issue_fits : IsInt64 issue := by decide

/-- All readings in one second. -/
def Clock.inSecond (now : Int) (h : IsInt64 now ∧ IsInt64 (now + 12 * 60 * 60) := by decide) : Clock :=
  ⟨now, now, now, h, h.1⟩

/-- A second in which a visitor logs in. -/
def sampleClock : Clock := .inSecond 1700000000

/-- `respond`, when the event carries a cid. -/
def respond (ev : InEvent) (data : Option Json) : List Effect :=
  match ev.cid with
  | some rid => [.send (.response rid data none)]
  | none => []

/-- `respondError`, when the event carries a cid. -/
def respondError (ev : InEvent) (name message : String) : List Effect :=
  match ev.cid with
  | some rid => [.send (.response rid none (some ⟨name, message⟩))]
  | none => []

/-- The payload of a presence message (`publishPresence`). -/
def presencePayload (status : Bool) (vid : String) : Json :=
  if vid = "" then .obj [("op", .str "vi_online"), ("status", .bool status)]
  else .obj [("op", .str "vi_online"), ("status", .bool status), ("vid", .str vid)]

/-! ## Handlers -/

section Handlers

variable (p : Primitives) (cfg : Config)

/-- The response of a `#handshake`; an encoded Go map has its keys in order. -/
def handshakeStatus (s : Socket) (authError : Option ErrObj) : Json :=
  .obj ((authError.map fun e => ("authError", e.toJson)).toList ++
    [("id", .str s.id), ("isAuthenticated", .bool s.authed), ("pingTimeout", .num (itoa cfg.pingTimeoutMs))])

/-- The response of an `#authenticate`. -/
def authenticateStatus (s : Socket) (authError : Option ErrObj) : Json :=
  .obj ((authError.map fun e => ("authError", e.toJson)).toList ++ [("isAuthenticated", .bool s.authed)])

/-- Install a stored token, or drop the authentication when it does not verify. -/
def verifyAuth (s : Socket) (signed : String) (now : Int) : Socket × Option ErrObj :=
  match verifyToken p cfg.authKey signed now with
  | .ok token => (s.setAuthState token signed, none)
  | .error err => (s.setUnauthenticated, some ⟨tokenErrorName err, err.message⟩)

/-- `handleHandshake`. -/
def handleHandshake (s : Socket) (ev : InEvent) (clock : Clock) : Socket × List Effect :=
  let signed := decodeHandshake ev.data
  let r := if signed ≠ "" then verifyAuth p cfg s signed clock.check else (s.setUnauthenticated, none)
  (r.1.setHandshaken, respond ev (some (handshakeStatus cfg r.1.setHandshaken r.2)))

/-- `loginFailed`. -/
def loginFailed (ev : InEvent) : List Effect := respondError ev "LoginFailedError" "Login failed"

/-- The token an accepted login mints: visitors get two hours, operators twelve. -/
def mintToken (hash chanelName : String) (instanceID : Int) (isVisitor isChatToken : Bool) (now : Int) :
    AuthToken :=
  { token := hash, exp := now + (if isVisitor then 120 * 60 else 12 * 60 * 60), iat := 0, chanelName,
    instanceID, isChatToken, isVisitor, chanelNameChat := "" }

/-- `handleLogin`. -/
def handleLogin (s : Socket) (ev : InEvent) (clock : Clock) : Socket × List Effect :=
  match ev.data.map decodeLogin with
  | some (request, true) =>
    match loginHash request with
    | some (hash, instanceID) =>
      match validateLoginToken p hash request.chanelName cfg.secretHash clock.check with
      | some (isVisitor, isChatToken) =>
        -- the answer goes out before the token is set
        let minted := signToken p cfg.authKey
          (mintToken hash request.chanelName instanceID isVisitor isChatToken clock.mint) clock.issue
        let s := (s.setAuthState minted.1 minted.2).nextCallID
        (s, respond ev none ++
          [.send (.event "#setAuthToken" (some (.obj [("token", .str minted.2)])) (some s.callID))])
      | none => (s, loginFailed ev)
    | none => (s, loginFailed ev)
  | _ => (s, loginFailed ev)

/-- `handleAuthenticate`; without a token text the authentication stays as it is. -/
def handleAuthenticate (s : Socket) (ev : InEvent) (clock : Clock) : Socket × List Effect :=
  let signed := decodeAuthenticate ev.data
  let r := if signed ≠ "" then verifyAuth p cfg s signed clock.check else (s, none)
  (r.1, respond ev (some (authenticateStatus r.1 r.2)))

/-- `subscribeFailed`. -/
def subscribeFailed (ev : InEvent) (channel : String) : List Effect :=
  respondError ev "UnauthorizedError" ("You are not authorized to subscribe to " ++ channel)

/-- A visitor token asks for a chat channel (`isChatChannel`). -/
def isChatChannel (token : AuthToken) (channel : String) : Bool := contains channel "chat_" && token.isVisitor

/-- `handleSubscribe` refuses the token for the channel: a visitor token that is no chat token, or
under strict binding one that was issued for another channel, asks for a chat channel. -/
def refusesToken (token : AuthToken) (channel : String) : Bool :=
  isChatChannel token channel &&
    (!token.isChatToken || (cfg.strictChannelBinding && channel != token.chanelName))

/-- The presence a subscription announces: on the chat channel, else for an online visitor on the
channel of its instance. -/
def subscribePresence (token : AuthToken) (channel : String) : List Effect :=
  if isChatChannel token channel then [.presence channel true ""]
  else if token.isVisitor && cfg.trackVisitors then
    [.presence ("ous_" ++ itoa token.instanceID) true (lastTokenPart token.chanelName)]
  else []

/-- `handleSubscribe`. -/
def handleSubscribe (s : Socket) (ev : InEvent) : Socket × List Effect :=
  let payload := parseChannelPayload ev.data
  let channel := payload.1
  if channel = "" then
    (s, respondError ev "InvalidActionError" "Socket provided a malformated channel payload")
  else if !s.handshaken then
    (s, respondError ev "InvalidActionError"
      "Cannot subscribe socket to a channel before it has completed the handshake")
  else
    match s.token with
    | none => (s, subscribeFailed ev channel)
    | some token =>
      if refusesToken cfg token channel then (s, subscribeFailed ev channel)
      else if channel ∉ s.subs ∧ cfg.channelLimit ≤ s.subs.card then
        (s, respondError ev "InvalidActionError"
          ("Socket " ++ s.id ++ " tried to exceed the channel subscription limit of " ++ itoa cfg.channelLimit))
      else
        -- the token object is marked in place, so the socket holds the marked one
        let token' := if isChatChannel token channel then { token with chanelNameChat := channel } else token
        ({ s with subs := insert channel s.subs, token := some token' },
          subscribePresence cfg token channel ++ [.hubAdd channel] ++
            respond ev (if payload.2 then some (.obj [("batch", .bool true)]) else none))

/-- `handleUnsubscribe`. -/
def handleUnsubscribe (s : Socket) (ev : InEvent) : Socket × List Effect :=
  let channel := (parseChannelPayload ev.data).1
  if channel = "" then (s, [])
  else if channel ∈ s.subs then
    ({ s with subs := s.subs.erase channel }, .hubRemove channel :: respond ev none)
  else (s, respond ev none)

/-- `handlePublish`: acknowledged first, then dropped or published. -/
def handlePublish (s : Socket) (ev : InEvent) : Socket × List Effect :=
  (s, respond ev none ++
    match ev.data.map decodePublish with
    | some (request, true) =>
      if request.1 = "" then []
      -- already acknowledged: from here on a publish is dropped silently
      else if !cfg.allowClientPublish then []
      else if cfg.restrictClientPublish = true ∧ request.1 ∉ s.subs then []
      else [.publish request.1 request.2]
    | _ => [])

/-- `handleEvent`. -/
def handleEvent (s : Socket) (ev : InEvent) (clock : Clock) : Socket × List Effect :=
  match ev.event with
  | "#handshake" => handleHandshake p cfg s ev clock
  | "#subscribe" => handleSubscribe cfg s ev
  | "#unsubscribe" => handleUnsubscribe s ev
  | "#publish" => handlePublish cfg s ev
  | "#authenticate" => handleAuthenticate p cfg s ev clock
  | "#removeAuthToken" => (s.setUnauthenticated, respond ev none)
  | "#disconnect" => (s, [.close 1000 ""])
  | "login" => handleLogin p cfg s ev clock
  | _ => (s, respondError ev "UnknownEventError" ("No handler for event " ++ ev.event))

/-- The events of a frame, or of a whole session, one after the other. -/
def handleEvents : Socket → List (InEvent × Clock) → Socket × List Effect
  | s, [] => (s, [])
  | s, (ev, clock) :: evs =>
    ((handleEvents (handleEvent p cfg s ev clock).1 evs).1,
      (handleEvent p cfg s ev clock).2 ++ (handleEvents (handleEvent p cfg s ev clock).1 evs).2)

/-- The presence a disconnect takes back (`cleanup`). -/
def cleanupPresence (s : Socket) : List Effect :=
  match s.token with
  | none => []
  | some token =>
    if !token.isVisitor then []
    -- `chanelNameChat` is only set by an accepted `#subscribe` to a chat
    else if token.chanelNameChat ≠ "" then [.presence token.chanelNameChat false ""]
    else if cfg.trackVisitors then
      [.presence ("ous_" ++ itoa token.instanceID) false (lastTokenPart token.chanelName)]
    else []

/-- The bookkeeping part of `cleanup`, dropping the channels in the given order. -/
def cleanup (s : Socket) (channels : List String) : Socket × List Effect :=
  ({ s with subs := ∅ }, channels.map .hubRemove ++ cleanupPresence cfg s)

end Handlers

end NodejsHelper
