import Nzovu.Library.Tally
import Nzovu.Library.Transition
import Nzovu.Service.Facade

/-!
# The channel of a client

The synchronous client makes its channel when it is built, the asynchronous one when it connects.
Calls of any methods overlap with each other and with `close`, which closes the client first and its
channel afterwards. The asynchronous client gives way only at an `await`, so that its runs are among
the runs described here.
-/

namespace Nzovu
open Proto
open Tally (located_append located_set)

/-- `channelClosed` is what a closed channel raises of a call that begins on it, if it refuses such
calls. -/
structure ClientSettings where
  pb : Protobuf
  python : Interpreter
  kind : Kind
  workerId : Str
  target : Str
  useTls : Bool
  tlsConfig : Option TlsConfig
  options : RpcOptions
  channelClosed : Option Exc

structure Sent where
  channel : Nat
  details : CallDetails
  request : Message

def Sent.rpc (sent : Sent) : CallDetails × Message := (sent.details, sent.request)

inductive CallState
  /-- The request is made and is still to be sent. -/
  | ready (request : Message)
  | awaiting
  | done (result : CallResult)

structure MethodCall where
  method : Method
  env : ClientEnv
  handler : Bool
  sent : Option Sent
  state : CallState

namespace MethodCall

def procedure (call : MethodCall) : Procedure := NzovuClient.procedure call.env call.method

def begin_ (env : ClientEnv) (method : Method) (handler : Bool) : MethodCall where
  method
  env
  handler
  sent := none
  state := match NzovuClient.prepare (NzovuClient.procedure env method) handler with
    | .ok request => .ready request
    | .error result => .done result

def sending (call : MethodCall) (options : RpcOptions) (k : Nat) (request : Message) : Sent :=
  ⟨k, NzovuClient.wireDetails call.env.kind options call.procedure.rpc, request⟩

def issue (call : MethodCall) (sent : Sent) : MethodCall :=
  { call with sent := some sent, state := .awaiting }

def raise (call : MethodCall) (e : Exc) : MethodCall :=
  { call with state := .done (NzovuClient.caught call.procedure call.handler e) }

def settle (call : MethodCall) (started : Except Exc Unit) (reply : Except CallFailure Message) :
    MethodCall :=
  { call with state := .done (NzovuClient.settle call.procedure call.handler started reply) }

end MethodCall

structure Connection where
  closed : Bool
  /-- The channels made so far, each with whether it is open. -/
  channels : List (Channel × Bool)
  channel : Option Nat
  stub : Option Nat
  calls : List MethodCall
  wire : List Sent

namespace Connection

/-- `reserved` and `started` are what `reserve` and `start` come to, where a call gets there. -/
inductive Step
  | connect (files : FileSystem)
  | call (method : Method) (handler : Bool) (reserved : Except Exc Unit)
  | send (i : Nat)
  | answer (i : Nat) (reply : Except CallFailure Message) (started : Except Exc Unit)
  | beginClose
  | closeChannel

def fresh : Connection := ⟨false, [], none, none, [], []⟩

def ensureOpen (s : Connection) : Except Exc Unit :=
  if s.closed then .error (nzovuError (text "Client is closed")) else .ok ()

def isOpen (s : Connection) (k : Nat) : Bool := (s.channels[k]?.map Prod.snd).getD false

def setCall (s : Connection) (i : Nat) (call : MethodCall) : Connection :=
  { s with calls := s.calls.set i call }

def noStub (rpc : Rpc) : Exc :=
  ⟨.attributeError, text "'NoneType' object has no attribute '" ++ rpc.name ++ [0x27]⟩

section Steps
variable (c : ClientSettings)

def env (s : Connection) (reserved : Except Exc Unit) : ClientEnv where
  pb := c.pb
  python := c.python
  kind := c.kind
  workerId := c.workerId
  opened := s.ensureOpen
  reserved

def openWith (s : Connection) (channel : Channel) : Connection :=
  { s with
    channels := s.channels ++ [(channel, true)]
    channel := some s.channels.length
    stub := some s.channels.length }

def open_ (files : FileSystem) (s : Connection) : Except Exc Connection := do
  let channel ← createChannel files c.target c.useTls c.tlsConfig c.options c.kind
  return s.openWith channel

def connect (files : FileSystem) (s : Connection) : Except Exc Connection := do
  s.ensureOpen
  if s.channel.isSome then return s
  open_ c files s

def start (files : FileSystem) : Except Exc Connection :=
  match c.kind with
  | .sync => open_ c files fresh
  | .async => .ok fresh

def refusal (s : Connection) (k : Nat) : Option Exc := if s.isOpen k then none else c.channelClosed

def send (i : Nat) (s : Connection) : Option Connection :=
  match s.calls[i]? with
  | some call =>
      match call.state with
      | .ready request =>
          match s.stub with
          | none => some (s.setCall i (call.raise (noStub call.procedure.rpc)))
          | some k =>
              match s.refusal c k with
              | none =>
                  let sent := call.sending c.options k request
                  some { s.setCall i (call.issue sent) with wire := s.wire ++ [sent] }
              | some e => some (s.setCall i (call.raise e))
      | _ => none
  | none => none

def answer (i : Nat) (reply : Except CallFailure Message) (started : Except Exc Unit)
    (s : Connection) : Option Connection :=
  match s.calls[i]? with
  | some call =>
      match call.state with
      | .awaiting => some (s.setCall i (call.settle started reply))
      | _ => none
  | none => none

/-- `await self.channel.close()`, or `self.channel.close()`. -/
def closeChannel (s : Connection) : Connection :=
  match s.channel with
  | none => s
  | some k => { s with channels := s.channels.modify k fun entry => (entry.1, false) }

/-- A `connect` that raises leaves the client as it was. The synchronous client has none. -/
def step (s : Connection) : Step → Option Connection
  | .connect files =>
      match c.kind with
      | .sync => none
      | .async =>
          match connect c files s with
          | .ok s' => some s'
          | .error _ => some s
  | .call method handler reserved =>
      some { s with calls := s.calls ++ [.begin_ (s.env c reserved) method handler] }
  | .send i => send c i s
  | .answer i reply started => answer i reply started s
  | .beginClose => some { s with closed := true }
  | .closeChannel => if s.closed then some s.closeChannel else none

/-! ## What a step does -/

def Serves (channel : Channel) : Prop :=
  ∃ files, createChannel files c.target c.useTls c.tlsConfig c.options c.kind = .ok channel

inductive Effect (s : Connection) : Step → Connection → Prop
  | connected (files : FileSystem) (channel : Channel) (isOpen : s.closed = false)
      (unmade : s.channel = none) (serves : Serves c channel) :
      Effect s (.connect files) (s.openWith channel)
  | unchanged (a : Step) (idle : (∃ files, a = .connect files) ∨ s.channel = none) : Effect s a s
  | called (method : Method) (handler : Bool) (reserved : Except Exc Unit) :
      Effect s (.call method handler reserved)
        { s with calls := s.calls ++ [.begin_ (s.env c reserved) method handler] }
  | sent (i k : Nat) (call : MethodCall) (request : Message) (located : s.calls[i]? = some call)
      (ready : call.state = .ready request) (stub : s.stub = some k) (passes : s.refusal c k = none) :
      Effect s (.send i)
        { s.setCall i (call.issue (call.sending c.options k request)) with
          wire := s.wire ++ [call.sending c.options k request] }
  | unsent (i : Nat) (call : MethodCall) (request : Message) (e : Exc)
      (located : s.calls[i]? = some call) (ready : call.state = .ready request)
      (cause : s.stub = none ∧ e = noStub call.procedure.rpc ∨
        ∃ k, s.stub = some k ∧ s.refusal c k = some e) :
      Effect s (.send i) (s.setCall i (call.raise e))
  | answered (i : Nat) (call : MethodCall) (reply : Except CallFailure Message)
      (started : Except Exc Unit) (located : s.calls[i]? = some call)
      (awaiting : call.state = .awaiting) :
      Effect s (.answer i reply started) (s.setCall i (call.settle started reply))
  | closing : Effect s .beginClose { s with closed := true }
  | channelClosed (k : Nat) (closed : s.closed = true) (channel : s.channel = some k) :
      Effect s .closeChannel
        { s with channels := s.channels.modify k fun entry => (entry.1, false) }

variable {c}

theorem connect_ok {files : FileSystem} {s s' : Connection} (ok : connect c files s = .ok s') :
    s' = s ∨ s.closed = false ∧ s.channel = none ∧ ∃ channel,
      Serves c channel ∧ s' = s.openWith channel := by
  obtain ⟨_, opened, rest⟩ := bind_eq_ok.1 ok
  split at rest
  · cases rest
    exact .inl rfl
  · rename_i unmade
    obtain ⟨channel, made, same⟩ := bind_eq_ok.1 rest
    cases same
    have isOpen : s.closed = false := by
      rw [ensureOpen] at opened
      split at opened
      · cases opened
      · rename_i isOpen
        simpa using isOpen
    exact .inr ⟨isOpen, by simpa using unmade, channel, ⟨files, made⟩, rfl⟩

theorem effect {s s' : Connection} {a : Step} (taken : step c s a = some s') : Effect c s a s' := by
  cases a with
  | connect files =>
      simp only [step] at taken
      split at taken
      · cases taken
      split at taken
      · rename_i ok
        cases taken
        rcases connect_ok ok with rfl | ⟨isOpen, unmade, channel, serves, rfl⟩
        · exact .unchanged _ (.inl ⟨files, rfl⟩)
        · exact .connected files channel isOpen unmade serves
      · cases taken
        exact .unchanged _ (.inl ⟨files, rfl⟩)
  | call method handler reserved =>
      cases taken
      exact .called method handler reserved
  | send i =>
      simp only [step, send] at taken
      split at taken
      · rename_i call located
        split at taken
        · rename_i request ready
          split at taken
          · rename_i stub
            cases taken
            exact .unsent i call request _ located ready (.inl ⟨stub, rfl⟩)
          · rename_i k stub
            split at taken
            · rename_i passes
              cases taken
              exact .sent i k call request located ready stub passes
            · rename_i e refused
              cases taken
              exact .unsent i call request e located ready (.inr ⟨k, stub, refused⟩)
        · cases taken
      · cases taken
  | answer i reply started =>
      simp only [step, answer] at taken
      split at taken
      · rename_i call located
        split at taken
        · rename_i awaiting
          cases taken
          exact .answered i call reply started located awaiting
        · cases taken
      · cases taken
  | beginClose =>
      cases taken
      exact .closing
  | closeChannel =>
      simp only [step] at taken
      split at taken
      · rename_i closed
        cases taken
        cases channel : s.channel with
        | none =>
            have same : s.closeChannel = s := by simp only [closeChannel, channel]
            rw [same]
            exact .unchanged _ (.inr channel)
        | some k =>
            have same : s.closeChannel =
                { s with channels := s.channels.modify k fun entry => (entry.1, false) } := by
              simp only [closeChannel, channel]
            rw [same]
            exact .channelClosed k closed channel
      · cases taken

end Steps

end Connection

end Nzovu
