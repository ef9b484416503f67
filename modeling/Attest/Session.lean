import Attest.Challenge
import Attest.Cipher.Pair
import Attest.ModuleImage.Messages
import Attest.Response

/-!
# Sessions

A session leads one client from the announcement of the module to the challenges:

* `awaitingModule`: the module is announced; a client that misses it gets it, one that has loaded
  it is asked the seed;
* `awaitingHash`: the right answer changes the keys and makes the session active, a wrong one
  rejects the client for good;
* `active`: challenges go out, one at a time, and are answered or expire.

What a client sends is opened before anything else is done with it, so the receiving cipher is in
step whatever the payload turns out to be. All functions here answer the session after the call
together with its result, also when the call fails.
-/

namespace Attest

/-- What all sessions share and none changes. -/
structure Engine where
  catalog : Catalog
  image : ModuleImage
  config : Config

/-- A challenge that is not answered yet. -/
structure InFlight where
  ids : List CheckId
  /-- When it was sent, in milliseconds. -/
  sentAt : Nat
  deriving DecidableEq, Repr

/-- One client. -/
structure Session where
  account : UInt32
  build : Build
  keys : Keys
  cipher : CipherPair
  scheduler : Scheduler
  phase : Phase
  inFlight : Option InFlight
  /-- When the waiting for the next challenge began, in milliseconds. -/
  waitingSince : Nat
  /-- How many challenges were answered. -/
  cycles : Nat
  deriving DecidableEq

/-- What came of an answer to a challenge. -/
structure CycleReport where
  outcome : Outcome
  penalty : Option Penalty
  deriving DecidableEq, Repr

/-- What is to be done after a message from the client. -/
inductive Reaction where
  /-- Send these sealed messages, in order. -/
  | send (wires : List Bytes)
  /-- A challenge was answered. -/
  | cycle (report : CycleReport)
  /-- The module is not genuine. -/
  | penalty (penalty : Penalty)
  deriving DecidableEq, Repr

/-- What is to be done as time goes by. -/
inductive Update where
  | idle
  /-- Send this sealed challenge. -/
  | challenge (wire : Bytes)
  /-- The challenge was not answered in time. -/
  | timedOut (penalty : Penalty)
  deriving DecidableEq, Repr

/-- What a call on a session comes to. -/
structure Turn (α : Type) where
  result : Except Fault α
  /-- The session after the call. -/
  session : Session
  log : List Event

namespace Session

/-! ### Sealing -/

/-- Seals a message to the client. -/
def sealed (s : Session) (message : Bytes) : Bytes × Session :=
  let (wire, cipher) := s.cipher.sealed message
  (wire, { s with cipher })

/-- Seals messages to the client, in order. -/
def sealedAll (s : Session) : List Bytes → List Bytes × Session
  | [] => ([], s)
  | message :: rest =>
    let (wire, s) := s.sealed message
    let (wires, s) := s.sealedAll rest
    (wire :: wires, s)

/-- Opens a message from the client. -/
def opened (s : Session) (wire : Bytes) : Bytes × Session :=
  let (message, cipher) := s.cipher.opened wire
  (message, { s with cipher })

/-- A turn that sends messages. -/
def sending (s : Session) (messages : List Bytes) (log : List Event) : Turn Reaction :=
  let (wires, s) := s.sealedAll messages
  ⟨.ok (.send wires), s, log⟩

/-! ### Start -/

/-- The session with these keys, before anything is sent. -/
def initial (engine : Engine) (account : UInt32) (build : Build) (keys : Keys)
    (shuffleSeed : UInt64) (now : Nat) : Session where
  account := account
  build := build
  keys := keys
  cipher := CipherPair.server keys
  scheduler := Scheduler.start engine.config.scheduling shuffleSeed
  phase := .awaitingModule
  inFlight := none
  waitingSince := now
  cycles := 0

/-- Starts a session. Answers the sealed announcement, the session behind it, and the seeds that
are left: a session uses up two words of them, and none if the secret is empty. -/
def start (engine : Engine) (account : UInt32) (build : Build) (secret : Bytes) (now : Nat)
    (seeds : SeedStream) : Except Fault (Bytes × Session) × SeedStream :=
  match Keys.derive? secret engine.image.secrets.seed with
  | none => (.error .emptySecret, seeds)
  | some keys =>
    let (shuffleSeed, seeds) := seeds.next64
    let s := initial engine account build keys shuffleSeed now
    (.ok (s.sealed engine.image.announcement.message), seeds)

/-- The events of a start, given how it ended. -/
def startEvents : Except Fault (Bytes × Session) → List Event
  | .ok (_, s) => [.sessionStarted s.account s.build, .keysDerived s.keys]
  | .error _ => []

/-! ### Messages from the client -/

/-- Judges the answer to the seed, which is the first twenty bytes. -/
def receiveHash (engine : Engine) (body : Bytes) (now : Nat) (s : Session) : Turn Reaction :=
  if body.take 20 = engine.image.secrets.answer.toList then
    let keys := s.keys.rotate engine.image.secrets.inbound engine.image.secrets.outbound
    let s := { s with
      keys, cipher := CipherPair.server keys, phase := .active, waitingSince := now }
    s.sending [engine.image.functions.message] [.hashAccepted s.account, .keysRotated keys]
  else
    let penalty := Penalty.decide engine.config.penalties s.account .hashMismatch none
    ⟨.ok (.penalty penalty), { s with phase := .rejected }, [.penaltyDecided penalty]⟩

/-- The time from the challenge to `now`, at most the largest word. -/
def InFlight.elapsed (f : InFlight) (now : Nat) : UInt32 :=
  UInt32.ofNat (min (now - f.sentAt) (UInt32.size - 1))

/-- Judges the answer to a challenge. -/
def receiveAnswer (engine : Engine) (f : InFlight) (body : Bytes) (now : Nat) (s : Session) :
    Turn Reaction :=
  let s := { s with inFlight := none }
  let result := Response.validate engine.catalog s.build f.ids body (InFlight.elapsed f now)
  let log := Response.events result
  match result with
  | .error fault => ⟨.error fault, s, log⟩
  | .ok examination =>
    let s := { s with waitingSince := now, cycles := s.cycles + 1 }
    let outcome := examination.outcome
    let failing := outcome.report?.bind fun r =>
      r.firstFailure?.bind (engine.catalog.get? s.build)
    let penalty := Penalty.judge engine.config.penalties s.account outcome failing
    let verdict :=
      match penalty with
      | some p => Event.penaltyDecided p
      | none => .cyclePassed s.account s.cycles
    ⟨.ok (.cycle ⟨outcome, penalty⟩), s, log ++ [verdict]⟩

/-- Refuses a message that the phase has no use for. -/
def refuse (opcode : Wire.ClientOpcode) (s : Session) : Turn Reaction :=
  ⟨.error (.unexpectedOpcode opcode s.phase), s, [.outOfTurn s.account opcode s.phase]⟩

/-- Handles an opened message. -/
def handle (engine : Engine) (opcode : Wire.ClientOpcode) (body : Bytes) (now : Nat)
    (s : Session) : Turn Reaction :=
  match opcode, s.phase, s.inFlight with
  | .moduleMissing, .awaitingModule, _ =>
    s.sending (ModuleImage.chunkMessages engine.image.blob) [.moduleMissing s.account]
  | .moduleOk, .awaitingModule, _ =>
    { s with phase := .awaitingHash }.sending
      [ModuleImage.hashRequest engine.image.secrets.seed] [.moduleLoaded s.account]
  | .moduleFailed, .awaitingModule, _ | .moduleFailed, .awaitingHash, _ =>
    { s with phase := .awaitingModule }.sending
      [engine.image.announcement.message] [.moduleFailed s.account]
  | .hashResult, .awaitingHash, _ => s.receiveHash engine body now
  | .checksResult, .active, some f => s.receiveAnswer engine f body now
  | _, _, _ => s.refuse opcode

/-- Takes a payload from the client. -/
def receive (engine : Engine) (payload : Bytes) (now : Nat) (s : Session) : Turn Reaction :=
  let (message, s) := s.opened payload
  match message with
  | [] => ⟨.error (.truncated ⟨1, 0⟩), s, []⟩
  | byte :: body =>
    match Wire.ClientOpcode.ofByte? byte with
    | none => ⟨.error (.unknownOpcode byte), s, []⟩
    | some opcode => s.handle engine opcode body now

/-! ### Time -/

/-- Draws the checks of the next cycle and seals their challenge. The stocks are drawn from even
if no challenge comes of it. -/
def challenge (engine : Engine) (now : Nat) (seeds : SeedStream) (s : Session) :
    Turn Bytes × SeedStream :=
  let refills := s.scheduler.refillEvents engine.catalog s.build
  let (selection, scheduler) := s.scheduler.nextCycle engine.catalog s.build
  let s := { s with scheduler }
  let (result, seeds) :=
    Challenge.ofSelection engine.catalog s.build selection s.keys.tagMask seeds
  let log := refills ++ Challenge.events s.build result
  match result with
  | .error fault => (⟨.error fault, s, log⟩, seeds)
  | .ok c =>
    let (wire, s) := { s with inFlight := some ⟨c.inFlight, now⟩ }.sealed c.payload
    (⟨.ok wire, s, log ++ [.challengeSent s.account c.inFlight]⟩, seeds)

/-- Gives up a challenge that was not answered in time. -/
def expire (engine : Engine) (f : InFlight) (now : Nat) (s : Session) : Turn Update :=
  let penalty := Penalty.decide engine.config.penalties s.account .responseTimeout none
  ⟨.ok (.timedOut penalty), { s with inFlight := none, waitingSince := now },
    [.challengeExpired s.account f.ids]⟩

/-- Does what is due: a challenge after the interval, or its expiry after the timeout. -/
def tick (engine : Engine) (now : Nat) (seeds : SeedStream) (s : Session) :
    Turn Update × SeedStream :=
  let idle : Turn Update × SeedStream := (⟨.ok .idle, s, []⟩, seeds)
  if s.phase ≠ .active then idle
  else
    match s.inFlight with
    | some f =>
      if engine.config.timing.timeout.toNat < now - f.sentAt then (s.expire engine f now, seeds)
      else idle
    | none =>
      if engine.config.timing.interval.toNat ≤ now - s.waitingSince then
        let (turn, seeds) := s.challenge engine now seeds
        (⟨turn.result.map .challenge, turn.session, turn.log⟩, seeds)
      else idle

end Session

end Attest
