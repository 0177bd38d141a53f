import Overplus.Verif.TrojanUdp

/-!
# Sources of Trojan UDP replies

A session in UDP mode writes every datagram of the target side to its client as a packet. The
handler of the receive takes the sender's endpoint when the receive is started, before there
is a sender, so every packet names the unspecified address and port zero as its source.
-/
namespace Overplus.Verif.TrojanReplies

open Server

/-- Text of an address, as the packet parser writes it. -/
def addressText : Address → Bytes
  | .v4 bytes => dotted (bytes.val.getD 0 0) (bytes.val.getD 1 0) (bytes.val.getD 2 0)
      (bytes.val.getD 3 0)
  | .v6 bytes => SOCKS5Address.hexGroups bytes.val

/-- Address text, port and payload of the packet at the front of some bytes. -/
def parsedReply (packet : Bytes) : Option (Bytes × UInt16 × Bytes) :=
  (UDPPacket.parse packet).map fun parsed =>
    (parsed.1.address.address, parsed.1.address.port, parsed.1.payload)

/-- The packet parses to the sender of a datagram and its payload. -/
def CarriesSource (sender : Endpoint) (data packet : Bytes) : Prop :=
  parsedReply packet = some (addressText sender.address, sender.port, data)

instance (sender : Endpoint) (data packet : Bytes) : Decidable (CarriesSource sender data packet) :=
  inferInstanceAs (Decidable (_ = _))

/-- The packet written for a datagram of the target side. -/
def reply : Effect → Option Effect
  | .udpReceived _ data => some (.udpReply (UDPPacket.generate .unspecified data))
  | _ => none

variable {config : ServerConfig} {session next : Session} {world : World} {op : Op}
  {result : Result} {effect : Effect}

/-- A packet for the unspecified endpoint parses to its address text, port zero and the payload. -/
theorem parsedReply_unspecified {data : Bytes} (small : data.length < 2 ^ 16) :
    parsedReply (UDPPacket.generate .unspecified data) = some (dotted 0 0 0 0, 0, data) := by
  have whole : SOCKS5Address.parse (SOCKS5Address.generate .unspecified) =
      some (⟨some .ipv4, dotted 0 0 0 0, 0⟩, (SOCKS5Address.generate .unspecified).length) := by
    decide +kernel
  rw [parsedReply, UDPPacket.generate, UDPPacket.parse_tail whole small]
  rfl

/-- Only the unspecified IPv4 address has the text of the unspecified address. -/
theorem addressText_ne {address : Address} (specified : address.isUnspecified = false) :
    addressText address ≠ dotted 0 0 0 0 := by
  intro same
  cases address with
  | v4 bytes =>
    obtain ⟨first, second, third, fourth⟩ := dotted_inj same
    obtain ⟨bytes, size⟩ := bytes
    match bytes, size with
    | [one, two, three, four], _ =>
      simp only [List.getD_cons_zero, List.getD_cons_succ] at first second third fourth
      simp [Address.isUnspecified, Address.toBytes, first, second, third, fourth] at specified
  | v6 bytes =>
    have lengths := congrArg List.length same
    have short : (dotted 0 0 0 0).length = 7 := by decide
    rw [short] at lengths
    simp [addressText, SOCKS5Address.hexGroups, hexByte] at lengths

/-- No plain effect has a reply. -/
theorem reply_plain (plain : effect.IsPlain) : reply effect = none := by
  cases effect <;> first | rfl | cases plain

/-- Effects of a handler that parses packets have no reply. -/
theorem reply_from {unparsed : Bytes} (own : effect.IsFrom world unparsed) :
    reply effect = none := by
  cases effect <;> first | rfl | cases own

/-- Effects without a reply keep the replies of a trace. -/
theorem followed_goes {records : Effect → Prop} {starts : Op → Prop}
    (goes : session.Goes records starts next)
    (quiet : ∀ effect, records effect → reply effect = none)
    (followed : Followed reply session.trace) : Followed reply next.trace := by
  obtain ⟨effects, traced, fine⟩ := goes.recorded
  rw [traced]
  exact followed.append (followed_of_quiet fun effect member => quiet effect (fine effect member))

/-- **One step** answers the datagram it receives and no other. -/
theorem outcome_followed (outcome : session.Outcome world op result next)
    (followed : Followed reply session.trace) : Followed reply next.trace := by
  have recorded {effect : Effect} (quiet : reply effect = none) :
      Followed reply (session.trace ++ [effect]) :=
    followed.append (followed_of_quiet (by simp [quiet]))
  cases outcome with
  | failed => rwa [Session.destroy_trace]
  | greeted => exact followed
  | tcp own state goes => exact followed_goes goes (fun _ => reply_plain) followed
  | service state goes => exact followed_goes goes (fun _ => reply_plain) (recorded rfl)
  | packet source holds goes ended =>
    refine followed_goes goes (fun _ => reply_from) ?_
    rw [Session.skipPacket_trace, holds.trace]
    exact recorded (reply_plain (Session.packetSource_plain source))
  | resolved chosen goes =>
    refine followed_goes goes ?_ (recorded rfl)
    rintro _ rfl
    rfl
  | unresolved none => rwa [Session.destroy_trace]
  | resumed own goes => exact followed_goes goes (fun _ => False.elim) followed
  | replied goes =>
    refine followed_goes goes (fun _ => False.elim) ?_
    change Followed reply ((session.trace ++ [_]) ++ [_])
    rw [List.append_assoc]
    exact followed.append (followed_pair rfl rfl)

/-- Every datagram of the target side has been answered, after every run. -/
theorem run_followed {kind : SessionKind} {events : List Event}
    (ran : run (Session.step config) (Session.start kind) events = some session) :
    Followed reply session.trace := by
  have keeps : ∀ state event next, Followed reply state.trace →
      Session.step config state event = some next → Followed reply next.trace := by
    intro state event next followed stepped
    exact outcome_followed (Session.step_outcome stepped).2.2 followed
  refine @run_invariant _ _ _ (fun state => Followed reply state.trace) _ _ _ keeps ?_ ran
  exact followed_of_quiet (by simp [Session.start])

/-- **Replies never carry their source.** In every run, a datagram of at most 65507 bytes from a
sender with a specified address is written to the client as a packet that parses to the
unspecified address, port zero and the payload, and not to the sender. -/
theorem reply_source_never (config : ServerConfig) (kind : SessionKind) (events : List Event)
    (session : Session) (ran : run (Session.step config) (Session.start kind) events = some session)
    (before after : List Effect) (sender : Endpoint) (data : Bytes)
    (split : session.trace = before ++ .udpReceived sender data :: after)
    (specified : sender.address.isUnspecified = false) (small : data.length ≤ 65507) :
    ∃ packet rest, after = .udpReply packet :: rest ∧
      parsedReply packet = some (dotted 0 0 0 0, 0, data) ∧ ¬ CarriesSource sender data packet := by
  obtain ⟨rest, answered⟩ := run_followed ran before _ after _ split rfl
  have parsed :
      parsedReply (UDPPacket.generate .unspecified data) = some (dotted 0 0 0 0, 0, data) :=
    parsedReply_unspecified (by omega)
  refine ⟨_, rest, answered, parsed, ?_⟩
  intro carries
  rw [CarriesSource, parsed] at carries
  exact addressText_ne specified (congrArg Prod.fst (Option.some.inj carries)).symm

/-- The target 127.0.0.1 answers a client's packet with one byte. -/
def sampleReply : List Event :=
  TrojanUdp.sampleEvents (TrojanUdp.samplePacket 7) ++
    [⟨.udpReceive, .received ⟨.ofWord 0x7f000001, 53⟩ [9], {}⟩]

/-- The session writes the answer of 127.0.0.1 as a packet from the unspecified address. -/
theorem reply_source_never_sample : ∃ session before after packet rest,
    run (Session.step ⟨[[0x70]]⟩) (Session.start .tls) sampleReply = some session ∧
      session.trace = before ++ .udpReceived ⟨.ofWord 0x7f000001, 53⟩ [9] :: after ∧
      after = .udpReply packet :: rest ∧ parsedReply packet = some (dotted 0 0 0 0, 0, [9]) ∧
      ¬ CarriesSource ⟨.ofWord 0x7f000001, 53⟩ [9] packet := by
  have checked : (run (Session.step ⟨[[0x70]]⟩) (Session.start .tls) sampleReply).any
      (fun session => decide (session.trace = session.trace.take 2 ++
        .udpReceived ⟨.ofWord 0x7f000001, 53⟩ [9] :: session.trace.drop 3)) = true := by
    decide +kernel
  obtain ⟨session, ran, good⟩ := exists_of_run checked
  have split := of_decide_eq_true good
  obtain ⟨packet, rest, written, parsed, lost⟩ := reply_source_never _ _ _ _ ran _ _ _ _ split
    (by decide) (by decide)
  exact ⟨session, _, _, packet, rest, ran, split, written, parsed, lost⟩

/-- The answer of 127.0.0.1 reaches the client without its source. -/
theorem reply_source_lost : ∃ session before packet,
    run (Session.step ⟨[[0x70]]⟩) (Session.start .tls) sampleReply = some session ∧
      session.trace = before ++ [.udpReceived ⟨.ofWord 0x7f000001, 53⟩ [9], .udpReply packet] ∧
      ¬ CarriesSource ⟨.ofWord 0x7f000001, 53⟩ [9] packet := by
  have checked : (run (Session.step ⟨[[0x70]]⟩) (Session.start .tls) sampleReply).any
      (fun session => decide (session.trace = session.trace.take 2 ++
        [.udpReceived ⟨.ofWord 0x7f000001, 53⟩ [9],
          .udpReply [1, 0, 0, 0, 0, 0, 0, 0, 1, 13, 10, 9]])) = true := by
    decide +kernel
  obtain ⟨session, ran, good⟩ := exists_of_run checked
  have lost :
      ¬ CarriesSource ⟨.ofWord 0x7f000001, 53⟩ [9] [1, 0, 0, 0, 0, 0, 0, 0, 1, 13, 10, 9] := by
    decide +kernel
  exact ⟨session, _, _, ran, of_decide_eq_true good, lost⟩

end Overplus.Verif.TrojanReplies
