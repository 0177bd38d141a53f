import Overplus.Client.UdpRelay
import Overplus.Library.Run
import Overplus.Verif.FrameDecoding

/-!
# Replies of a relay

A relay turns each reply frame into a SOCKS5 datagram and picks the application it goes to. The
datagram is built with the frame's own address type, which SOCKS5 shares for IPv4 and not for
IPv6. The application is the one that asked for the reply's source, once: the first reply
removes the entry, and further replies go to whoever wrote to the relay last.
-/
namespace Overplus.Verif.RelayReplies

open Client UdpFrame

section Translation

/-- The datagram built from a reply frame is accepted and has the frame's address, port and
payload, under the type SOCKS5 has for such an address. -/
def Translated (frame : UdpFrame) : Prop :=
  ∃ request, UdpRequest.parse (UdpRelay.response frame).serialize = some request ∧
    request.addrType = (if frame.addrType = addrIpv4 then 0x01 else 0x04) ∧
    request.dstAddr = frame.address ∧ request.dstPort = frame.port ∧
    request.payload = frame.payload

/-- A datagram to an IPv4 address is read back as it was written. -/
theorem parse_serialize_ipv4 {address payload : Bytes} {port : UInt16}
    (size : address.length = 4) :
    UdpRequest.parse (UdpRequest.serialize
      { addrType := 0x01, dstAddr := address, dstPort := port, payload := payload }) =
      some { addrType := 0x01, dstAddr := address, dstPort := port, payload := payload } := by
  obtain ⟨first, second, third, fourth, rfl⟩ := List.length_eq_four.mp size
  simp [UdpRequest.parse, UdpRequest.serialize, UdpRequest.parseAddress, ofBe16_be16]

/-- A datagram whose type is none of SOCKS5's is refused. -/
theorem parse_serialize_ipv6 (frame : UdpFrame) (typed : frame.addrType = addrIpv6) :
    UdpRequest.parse (UdpRelay.response frame).serialize = none := by
  simp [UdpRequest.parse, UdpRequest.serialize, UdpRelay.response, typed, addrIpv6]

/-- **Replies from IPv4 targets are translated, replies from IPv6 targets are not.** -/
theorem reply_translated_iff {data : Bytes} {parsed : Parsed}
    (decoded : parseFresh data = .ok parsed) (accepted : parsed.accepted = true)
    (ip : parsed.frame.addrType = addrIpv4 ∨ parsed.frame.addrType = addrIpv6) :
    Translated parsed.frame ↔ parsed.frame.addrType = addrIpv4 := by
  constructor
  · rintro ⟨request, read, -⟩
    rcases ip with ipv4 | ipv6
    · exact ipv4
    · rw [parse_serialize_ipv6 _ ipv6] at read
      cases read
  · intro ipv4
    have size : parsed.frame.address.length = 4 := by
      rcases FrameDecoding.parse_accepted decoded accepted with fixed | domain | fixed
      · exact fixed.2
      · rw [ipv4] at domain
        cases domain
      · rw [ipv4] at fixed
        cases fixed.1
    refine ⟨UdpRelay.response parsed.frame, ?_, ?_, rfl, rfl, rfl⟩
    · have same : UdpRelay.response parsed.frame =
          { addrType := 0x01, dstAddr := parsed.frame.address, dstPort := parsed.frame.port,
            payload := parsed.frame.payload } := by
        rw [UdpRelay.response, ipv4]
        rfl
      rw [same]
      exact parse_serialize_ipv4 size
    · rw [if_pos ipv4]
      exact ipv4

/-- An IPv4 frame satisfies the assumptions. -/
theorem reply_translated_iff_dns :
    ∃ parsed, parseFresh (generate ⟨.v4 ⟨[8, 8, 8, 8], rfl⟩, 53⟩ [1]) = .ok parsed ∧
      Translated parsed.frame := by
  have decoded : parseFresh (generate ⟨.v4 ⟨[8, 8, 8, 8], rfl⟩, 53⟩ [1]) =
      .ok ⟨true, ⟨addrIpv4, [8, 8, 8, 8], 53, [1]⟩, 12, false⟩ := by decide +kernel
  exact ⟨_, decoded, (reply_translated_iff decoded rfl (.inl rfl)).mpr rfl⟩

/-- A reply from an IPv6 target becomes a datagram of type 6 without its address. -/
theorem ipv6_reply_refused :
    ∃ parsed, parseFresh (generate ⟨.v6 ⟨List.replicate 16 1, rfl⟩, 53⟩ [1]) = .ok parsed ∧
      parsed.accepted = true ∧ parsed.frame.addrType = addrIpv6 ∧
      (UdpRelay.response parsed.frame).serialize = [0, 0, 0, 6, 0, 53, 1] ∧
      ¬ Translated parsed.frame := by
  have decoded : parseFresh (generate ⟨.v6 ⟨List.replicate 16 1, rfl⟩, 53⟩ [1]) =
      .ok ⟨true, ⟨addrIpv6, List.replicate 16 1, 53, [1]⟩, 24, false⟩ := by decide +kernel
  refine ⟨_, decoded, rfl, rfl, by decide, ?_⟩
  rintro ⟨request, read, -⟩
  rw [parse_serialize_ipv6 _ rfl] at read
  cases read

end Translation

section Routing

/-- Who is to get the next reply from a target, after one more effect. -/
def asker (address : Bytes) (port : UInt16) (held : Option Endpoint) :
    RelayEffect → Option Endpoint
  | .arrived _ _ => held
  | .handled sender request =>
    if request.dstAddr = address ∧ request.dstPort = port then some sender else held
  | .replied frame _ _ => if frame.address = address ∧ frame.port = port then none else held

/-- The application whose datagram for a target was handled last, unless a reply from the target
was sent since. -/
def lastAsker (trace : List RelayEffect) (address : Bytes) (port : UInt16) : Option Endpoint :=
  trace.foldl (asker address port) none

/-- Sender of the datagram that arrived last. -/
def lastSender (trace : List RelayEffect) : Endpoint :=
  trace.foldl (fun held effect => match effect with
    | .arrived sender _ => sender
    | _ => held) .unspecified

/-- Where the relay sends a reply. -/
def recipient (trace : List RelayEffect) (address : Bytes) (port : UInt16) : Endpoint :=
  (lastAsker trace address port).getD (lastSender trace)

/-- The application has sent the relay a datagram for an IPv4 target. -/
def HadSent (trace : List RelayEffect) (app : Endpoint) (address : Bytes) (port : UInt16) : Prop :=
  ∃ data request, .arrived app data ∈ trace ∧ UdpRequest.parse data = some request ∧
    request.addrType = 0x01 ∧ request.dstAddr = address ∧ request.dstPort = port

instance (trace : List RelayEffect) (app : Endpoint) (address : Bytes) (port : UInt16) :
    Decidable (HadSent trace app address port) :=
  decidable_of_iff
    (∃ effect ∈ trace, ∃ data ∈ (match effect with
      | .arrived sender data => if sender = app then some data else none
      | _ => none), ∃ request ∈ UdpRequest.parse data,
        request.addrType = 0x01 ∧ request.dstAddr = address ∧ request.dstPort = port) (by
    constructor
    · rintro ⟨effect, member, data, found, request, rest⟩
      cases effect with
      | arrived sender datagram =>
        by_cases same : sender = app
        · simp only [if_pos same, Option.mem_def, Option.some.injEq] at found
          exact ⟨data, request, same ▸ found ▸ member, rest⟩
        · simp only [if_neg same, Option.mem_def, reduceCtorEq] at found
      | handled sender request => cases found
      | replied frame app packet => cases found
    · rintro ⟨data, request, member, parsed, rest⟩
      exact ⟨.arrived app data, member, data, by simp, request, parsed, rest⟩)

/-- The table and the sender are those of the trace, and so was every reply's application. -/
structure Routed (relay : UdpRelay) : Prop where
  /-- The table has who is to get the next reply from each target. -/
  table : ∀ address port, relay.targetToSender (UdpRelay.targetKey address port) =
    lastAsker relay.trace address port
  /-- The sender is that of the last datagram. -/
  sender : relay.senderEp = lastSender relay.trace
  /-- Each reply went where the trace before it says. -/
  replies : ∀ before frame app packet after,
    relay.trace = before ++ .replied frame app packet :: after →
    app = recipient before frame.address frame.port

variable {relay next : UdpRelay} {event : RelayEvent} {sid : UInt16} {events : List RelayEvent}
  {before after : List RelayEffect} {frame : UdpFrame} {app : Endpoint} {packet : Bytes}

/-- What a step can do to the table, the sender and the trace. -/
theorem step_cases (stepped : relay.step event = some next) :
    (next.targetToSender = relay.targetToSender ∧ next.senderEp = relay.senderEp ∧
        next.trace = relay.trace) ∨
      (∃ data, next.targetToSender = relay.targetToSender ∧
        next.trace = relay.trace ++ [.arrived next.senderEp data]) ∨
      (∃ request, next.targetToSender = Function.update relay.targetToSender
          (UdpRelay.targetKey request.dstAddr request.dstPort) (some relay.senderEp) ∧
        next.senderEp = relay.senderEp ∧
        next.trace = relay.trace ++ [.handled relay.senderEp request]) ∨
      ∃ frame, next = relay.deliver frame := by
  cases event with
  | arrive sender data =>
    simp only [UdpRelay.step, Option.ite_none_right_eq_some, Option.some.injEq] at stepped
    obtain ⟨-, rfl⟩ := stepped
    exact .inr (.inl ⟨data, rfl, rfl⟩)
  | handle ready =>
    simp only [UdpRelay.step] at stepped
    split at stepped
    · rename_i data _
      obtain rfl := Option.some.inj stepped
      rcases UdpRelay.onReceiveLocal_cases relay data ready with
        ⟨receive, same⟩ | ⟨request, -, -, same⟩
      · rw [same]
        exact .inl ⟨rfl, rfl, rfl⟩
      · rw [same]
        cases ready <;> exact .inr (.inr (.inl ⟨request, rfl, rfl, rfl⟩))
    · cases stepped
  | failed =>
    simp only [UdpRelay.step, Option.ite_none_right_eq_some, Option.some.injEq] at stepped
    obtain ⟨-, rfl⟩ := stepped
    unfold UdpRelay.onReceiveFailed
    split <;> exact .inl ⟨rfl, rfl, rfl⟩
  | reply data =>
    simp only [UdpRelay.step] at stepped
    split at stepped
    · rename_i changed handled
      obtain rfl := Option.some.inj stepped
      rcases UdpRelay.onDtlsData_cases handled with rfl | ⟨parsed, -, -, -, rfl⟩
      · exact .inl ⟨rfl, rfl, rfl⟩
      · exact .inr (.inr (.inr ⟨parsed.frame, rfl⟩))
    · cases stepped
  | flush ready =>
    obtain rfl := Option.some.inj stepped
    cases ready <;> exact .inl ⟨rfl, rfl, rfl⟩
  | stop =>
    obtain rfl := Option.some.inj stepped
    exact .inl ⟨rfl, rfl, rfl⟩

/-- One more effect changes who is to get a reply as it says. -/
theorem lastAsker_snoc (trace : List RelayEffect) (effect : RelayEffect) (address : Bytes)
    (port : UInt16) : lastAsker (trace ++ [effect]) address port =
      asker address port (lastAsker trace address port) effect := by
  rw [lastAsker, List.foldl_append]
  rfl

/-- Keys of the table are equal when the targets are. -/
theorem update_key (table : Bytes → Option Endpoint) (address other : Bytes) (port second : UInt16)
    (value : Option Endpoint) :
    Function.update table (UdpRelay.targetKey address port) value
        (UdpRelay.targetKey other second) =
      if address = other ∧ port = second then value
      else table (UdpRelay.targetKey other second) := by
  split
  · rename_i same
    rw [same.1, same.2, Function.update_self]
  · rename_i different
    exact Function.update_of_ne
      (fun keys => different (UdpRelay.targetKey_injective keys.symm)) _ _

/-- A trace that ends with something other than a reply has the replies it had. -/
theorem Routed.replies_snoc {trace : List RelayEffect} {effect : RelayEffect}
    (old : ∀ before frame app packet after,
      trace = before ++ .replied frame app packet :: after →
      app = recipient before frame.address frame.port)
    (new : ∀ frame app packet, effect = .replied frame app packet →
      app = recipient trace frame.address frame.port)
    (before : List RelayEffect) (frame : UdpFrame) (app : Endpoint) (packet : Bytes)
    (after : List RelayEffect)
    (same : trace ++ [effect] = before ++ .replied frame app packet :: after) :
    app = recipient before frame.address frame.port := by
  rcases List.eq_nil_or_concat after with rfl | ⟨front, last, rfl⟩
  · obtain ⟨traces, effects⟩ := List.append_inj' same rfl
    rw [← traces]
    exact new frame app packet (List.cons.inj effects).1
  · have regrouped :
        trace ++ [effect] = (before ++ .replied frame app packet :: front) ++ [last] := by
      simpa using same
    exact old before frame app packet front (List.append_inj' regrouped rfl).1

/-- A relay starts with an empty table. -/
theorem routed_start (sid : UInt16) : Routed (UdpRelay.start sid) where
  table _ _ := rfl
  sender := rfl
  replies before frame app packet after same := by cases before <;> cases same

/-- **Step.** Every step keeps the table and the sender in agreement with the trace. -/
theorem Routed.step (routed : Routed relay) (stepped : relay.step event = some next) :
    Routed next := by
  rcases step_cases stepped with ⟨table, sender, trace⟩ | ⟨data, table, trace⟩ |
    ⟨request, table, sender, trace⟩ | ⟨frame, rfl⟩
  · refine ⟨?_, ?_, ?_⟩
    · rw [table, trace]
      exact routed.table
    · rw [sender, trace]
      exact routed.sender
    · rw [trace]
      exact routed.replies
  · refine ⟨?_, ?_, ?_⟩
    · intro address port
      rw [table, trace, lastAsker_snoc]
      exact routed.table address port
    · rw [trace, lastSender, List.foldl_append]
      rfl
    · rw [trace]
      exact replies_snoc routed.replies (by simp)
  · refine ⟨?_, ?_, ?_⟩
    · intro address port
      rw [table, trace, lastAsker_snoc, update_key, routed.table]
      rfl
    · rw [sender, trace, lastSender, List.foldl_append]
      exact routed.sender
    · rw [trace]
      exact replies_snoc routed.replies (by simp)
  · have sent : (relay.deliver frame).trace = relay.trace ++
        [.replied frame (recipient relay.trace frame.address frame.port)
          (UdpRelay.response frame).serialize] := by
      rw [recipient, ← routed.table, ← routed.sender]
      rfl
    refine ⟨?_, ?_, ?_⟩
    · intro address port
      rw [sent, lastAsker_snoc]
      refine (update_key _ _ _ _ _ _).trans ?_
      rw [routed.table]
      rfl
    · rw [sent, lastSender, List.foldl_append]
      exact routed.sender
    · rw [sent]
      refine replies_snoc routed.replies ?_
      rintro other app packet same
      cases same
      rfl

/-- The source's entry was made by an application that had asked for it, or there is no entry, for
want of a datagram since the last reply from there, and the application that wrote last had
asked. -/
def Routable (trace : List RelayEffect) (address : Bytes) (port : UInt16) : Prop :=
  (∃ entry, lastAsker trace address port = some entry ∧ HadSent trace entry address port) ∨
    (lastAsker trace address port = none ∧ HadSent trace (lastSender trace) address port)

/-- **Reply routing.** A reply goes to an application that had asked for its IPv4 source exactly
when the source is routable at the reply. So it goes to one that had asked whenever there is one,
exactly when the source is routable or no application had asked. -/
theorem reply_routed_iff (ran : run UdpRelay.step (.start sid) events = some relay)
    (sent : relay.trace = before ++ .replied frame app packet :: after) :
    (HadSent before app frame.address frame.port ↔
      Routable before frame.address frame.port) ∧
    (((∃ asker, HadSent before asker frame.address frame.port) →
        HadSent before app frame.address frame.port) ↔
      Routable before frame.address frame.port ∨
        ∀ asker, ¬ HadSent before asker frame.address frame.port) := by
  have routed : Routed relay :=
    run_invariant (fun _ _ _ held stepped => held.step stepped) (routed_start sid) ran
  have chosen := routed.replies before frame app packet after sent
  rw [recipient] at chosen
  have exact : HadSent before app frame.address frame.port ↔
      Routable before frame.address frame.port := by
    unfold Routable
    cases entry : lastAsker before frame.address frame.port with
    | none =>
      rw [entry] at chosen
      simp [chosen]
    | some held =>
      rw [entry] at chosen
      simp [chosen]
  refine ⟨exact, ?_⟩
  rw [exact, imp_iff_or_not, not_exists]

/-- An application of the relay, by its port. -/
def application (port : UInt16) : Endpoint := ⟨.v4 Address.loopbackBytes, port⟩

/-- Two applications ask for two targets, and the first target replies as often as given. -/
def crossing (replies : Nat) : List RelayEvent :=
  [.arrive (application 1) [0, 0, 0, 1, 8, 8, 8, 8, 0, 53, 1], .handle true,
    .arrive (application 2) [0, 0, 0, 1, 9, 9, 9, 9, 0, 53, 1], .handle true] ++
  List.replicate replies (.reply (generate ⟨.v4 ⟨[8, 8, 8, 8], rfl⟩, 53⟩ [1]))

/-- What the relay does before the replies. -/
def crossed : List RelayEffect :=
  [.arrived (application 1) [0, 0, 0, 1, 8, 8, 8, 8, 0, 53, 1],
    .handled (application 1) ⟨(0, 0), 0, 1, [8, 8, 8, 8], 53, [1]⟩,
    .arrived (application 2) [0, 0, 0, 1, 9, 9, 9, 9, 0, 53, 1],
    .handled (application 2) ⟨(0, 0), 0, 1, [9, 9, 9, 9], 53, [1]⟩]

/-- The reply of the first target, sent to an application. -/
def answered (port : UInt16) : RelayEffect :=
  .replied ⟨addrIpv4, [8, 8, 8, 8], 53, [1]⟩ (application port) [0, 0, 0, 1, 8, 8, 8, 8, 0, 53, 1]

/-- The first reply meets the condition and goes to the application that asked. -/
theorem reply_routed_iff_first : ∃ relay, run UdpRelay.step (.start 1) (crossing 1) = some relay ∧
    relay.trace = crossed ++ answered 1 :: [] ∧
    HadSent crossed (application 1) [8, 8, 8, 8] 53 := by
  have checked : (run UdpRelay.step (.start 1) (crossing 1)).any
      (fun relay => decide (relay.trace = crossed ++ answered 1 :: [])) = true := by decide +kernel
  obtain ⟨relay, ran, good⟩ := exists_of_run checked
  have sent := of_decide_eq_true good
  refine ⟨relay, ran, sent, (reply_routed_iff ran sent).1.mpr (.inl ⟨application 1, ?_, ?_⟩)⟩
  · decide +kernel
  · decide +kernel

/-- The second reply from the same target goes to the application that wrote last, which had
asked for another target. -/
theorem second_reply_misrouted :
    ∃ relay, run UdpRelay.step (.start 1) (crossing 2) = some relay ∧
      relay.trace = (crossed ++ [answered 1]) ++ answered 2 :: [] ∧
      HadSent (crossed ++ [answered 1]) (application 1) [8, 8, 8, 8] 53 ∧
      ¬ HadSent (crossed ++ [answered 1]) (application 2) [8, 8, 8, 8] 53 := by
  have checked : (run UdpRelay.step (.start 1) (crossing 2)).any
      (fun relay => decide (relay.trace = (crossed ++ [answered 1]) ++ answered 2 :: [])) =
      true := by decide +kernel
  obtain ⟨relay, ran, good⟩ := exists_of_run checked
  exact ⟨relay, ran, of_decide_eq_true good, by decide +kernel, by decide +kernel⟩

end Routing

end Overplus.Verif.RelayReplies
