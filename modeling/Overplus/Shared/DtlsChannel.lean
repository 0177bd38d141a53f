import Overplus.Library.Bytes

/-!
# The client's DTLS channel (`Shared/DtlsChannel.cpp`)

The channel drives a handshake over a datagram socket, announces the password once the
handshake is complete, and then carries records. OpenSSL's answers are arguments of a step. A
timer that is set again aborts its earlier waits, unless they have expired already; the model
keeps every wait and lets it complete with or without an error.

The record layer is what OpenSSL makes of it: `sent` lists the records that `SSL_write` took,
and a received record is an answer of `SSL_read`.
-/
namespace Overplus

/-- Operations of the channel in flight. -/
inductive ChannelOp where
  /-- A posted call of `do_handshake`. -/
  | attempt
  /-- A wait for the handshake's timeout. -/
  | timeout
  /-- A wait before another call of `do_handshake`. -/
  | retry
  /-- A receive on the socket. -/
  | receive
deriving DecidableEq, Repr

/-- Outcome of `SSL_do_handshake`. -/
inductive HandshakeResult where
  /-- The handshake is complete. -/
  | done
  /-- `SSL_ERROR_WANT_READ`. -/
  | wantRead
  /-- `SSL_ERROR_WANT_WRITE`. -/
  | wantWrite
  /-- Any other error. -/
  | failed
deriving DecidableEq, Repr

/-- Outcome of `SSL_write`. -/
inductive WriteResult where
  /-- A record was written. -/
  | written
  /-- `SSL_ERROR_WANT_READ` or `SSL_ERROR_WANT_WRITE`. -/
  | want
  /-- Any other error. -/
  | failed
deriving DecidableEq, Repr

/-- OpenSSL's answers during one step. -/
structure ChannelAnswers where
  /-- `SSL_do_handshake`. -/
  handshake : HandshakeResult := .wantRead
  /-- `SSL_write`, by the number of the call. -/
  write : Nat → WriteResult := fun _ => .written
  /-- `SSL_read`: a record, or nothing. -/
  read : Option Bytes := none

/-- `DtlsChannel`, its operations in flight and the records it has written. -/
structure DtlsChannel where
  /-- `ssl_` is not null. -/
  ssl : Bool
  /-- `password_`. -/
  password : Bytes
  /-- `handshake_done_`. -/
  handshakeDone : Bool := false
  /-- `running_`. -/
  running : Bool := false
  /-- Operations in flight. -/
  pending : List ChannelOp := []
  /-- Number of `SSL_write` calls made. -/
  writes : Nat := 0
  /-- Records written. -/
  sent : List Bytes := []

namespace DtlsChannel

/-- Start an asynchronous operation. -/
def await (channel : DtlsChannel) (op : ChannelOp) : DtlsChannel :=
  { channel with pending := channel.pending ++ [op] }

/-- Take a completed operation off the list. -/
def complete (channel : DtlsChannel) (op : ChannelOp) : DtlsChannel :=
  { channel with pending := channel.pending.erase op }

/-- `is_ready`. -/
def isReady (channel : DtlsChannel) : Bool := channel.handshakeDone

/-- `do_receive`. -/
def doReceive (channel : DtlsChannel) : DtlsChannel :=
  if channel.running then channel.await .receive else channel

/-- `send`. -/
def send (channel : DtlsChannel) (answers : ChannelAnswers) (data : Bytes) : DtlsChannel :=
  if channel.ssl && channel.handshakeDone && channel.running then
    let result := answers.write channel.writes
    let channel := { channel with writes := channel.writes + 1 }
    match result with
    | .written => { channel with sent := channel.sent ++ [data] }
    | .want => channel.doReceive
    | .failed => channel
  else channel

/-- Several sends, one after another. -/
def sendAll (channel : DtlsChannel) (answers : ChannelAnswers) (packets : List Bytes) :
    DtlsChannel :=
  packets.foldl (fun channel packet => channel.send answers packet) channel

/-- `start`. -/
def start (channel : DtlsChannel) : DtlsChannel :=
  ({ channel with running := true }.doReceive).await .attempt

/-- The line that announces the password. -/
def authLine (channel : DtlsChannel) : Bytes := channel.password ++ [10]

/-- `do_handshake`, with the argument of `on_handshake_` where it is called. -/
def doHandshake (channel : DtlsChannel) (answers : ChannelAnswers) : DtlsChannel × Option Bool :=
  if channel.ssl && channel.running && !channel.handshakeDone then
    match answers.handshake with
    | .wantRead => (channel.await .timeout, none)
    | .wantWrite => (channel.await .retry, none)
    | .failed => (channel, some false)
    | .done => ({ channel with handshakeDone := true }.send answers channel.authLine, some true)
  else (channel, none)

/-- `on_receive` without an error, with the record given to `on_data_` where it is called. -/
def onReceive (channel : DtlsChannel) (answers : ChannelAnswers) : DtlsChannel × Option Bytes :=
  if channel.running then
    if channel.handshakeDone then (channel.doReceive, answers.read)
    else ((channel.await .attempt).doReceive, none)
  else (channel, none)

/-- A channel with more records written, which is otherwise the channel it was. -/
def extend (channel : DtlsChannel) (records : List Bytes) (writes : Nat)
    (pending : List ChannelOp) : DtlsChannel :=
  { channel with sent := channel.sent ++ records, writes := writes, pending := pending }

variable {channel : DtlsChannel}

/-- A channel that carries records writes a packet, or `SSL_write` does not take it. -/
theorem send_ready (ssl : channel.ssl = true) (done : channel.handshakeDone = true)
    (running : channel.running = true) (answers : ChannelAnswers) (data : Bytes) :
    ∃ records writes pending,
    channel.send answers data = channel.extend records writes pending ∧ records.Sublist [data] ∧
      ((∀ call, answers.write call = .written) → records = [data]) := by
  have guarded : (channel.ssl && channel.handshakeDone && channel.running) = true := by
    rw [ssl, done, running]
    rfl
  unfold send
  rw [if_pos guarded]
  dsimp only
  split
  · exact ⟨[data], _, _, rfl, List.Sublist.refl _, fun _ => rfl⟩
  · rename_i refused
    refine ⟨[], channel.writes + 1, channel.pending ++ [.receive], ?_, List.nil_sublist _,
      fun taken => ?_⟩
    · rw [doReceive, if_pos running, extend, List.append_nil]
      rfl
    · rw [taken] at refused
      cases refused
  · rename_i refused
    refine ⟨[], channel.writes + 1, channel.pending, ?_, List.nil_sublist _, fun taken => ?_⟩
    · rw [extend, List.append_nil]
    · rw [taken] at refused
      cases refused

/-- A channel that carries records writes packets in order. -/
theorem sendAll_ready (ssl : channel.ssl = true) (done : channel.handshakeDone = true)
    (running : channel.running = true) (answers : ChannelAnswers) (packets : List Bytes) :
    ∃ records writes pending,
    channel.sendAll answers packets = channel.extend records writes pending ∧
      records.Sublist packets ∧ ((∀ call, answers.write call = .written) → records = packets) := by
  induction packets generalizing channel with
  | nil =>
    refine ⟨[], channel.writes, channel.pending, ?_, List.Sublist.refl _, fun _ => rfl⟩
    rw [extend, List.append_nil]
    rfl
  | cons packet rest ih =>
    obtain ⟨first, writes, pending, sent, sub, exact⟩ :=
      send_ready ssl done running answers packet
    have more := @ih (channel.extend first writes pending) ssl done running
    obtain ⟨others, calls, waiting, sentRest, subRest, exactRest⟩ := more
    refine ⟨first ++ others, calls, waiting, ?_, sub.append subRest, fun taken => ?_⟩
    · change (channel.send answers packet).sendAll answers rest = _
      rw [sent, sentRest]
      simp [extend]
    · rw [exact taken, exactRest taken]
      rfl

end DtlsChannel

end Overplus
