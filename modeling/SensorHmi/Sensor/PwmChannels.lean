import SensorHmi.Lib.Writes
import SensorHmi.Proto.CommandChecks
import SensorHmi.Sensor.IoTask

/-!
# PWM channels from the message to the output

The number a message gives for its channel is narrowed to eight bits by the decoder and reduced to
a channel by the I/O task. So the duties follow the messages as long as no message names another
number than a channel: `channels_isolated_iff`.
-/

namespace SensorHmi

open Octets Ieee Loop

variable {ι : Type}

section Said

variable (cbor : Tinycbor ι)

/-- One entry of `set_pwm`: the number that stands for the channel, if one does. -/
def channelEntry (it : ι) : Run ι (ι × (Option UInt64 → Option UInt64)) := do
  let (sub, it) ← copyChecked cbor it 7
  return (advanceIgnoring cbor it, fun said =>
    if sub = ascii "ch" then cbor.getUint64 it else said)

/-- One entry of a command, read for the number of its channel on the path of the decoder. -/
def commandChannelEntry (fuel : Nat) (map : ι) : Run ι (ι × (Option UInt64 → Option UInt64)) := do
  let (key, inside) ← copyChecked cbor map 15
  if key = ascii "set_pwm" then
    let pwmMap ← check (cbor.enterContainer inside)
    let (pwmMap, said) ← whileNotAtEnd cbor (channelEntry cbor) fuel pwmMap
    return (advanceIgnoring cbor (leaveIgnoring cbor inside pwmMap), said)
  else
    let (next, _) ← commandEntry cbor fuel map
    return (next, id)

/-- The number a CBOR command gives for its channel. -/
def commandChannel (fuel : Nat) (payload : Bytes) : Run ι (Option UInt64) := do
  let root ← check (cbor.parserInit payload)
  if cbor.isMap root then
    let map ← check (cbor.enterContainer root)
    let (_, said) ← whileNotAtEnd cbor (commandChannelEntry cbor fuel) fuel map
    return said none
  else throw .rejected

end Said

/-- What a message says about its channel: the number it names, if it names one, and what the
eight bits of the decoder make of it. -/
structure ChannelField where
  named : Option Nat
  narrowed : UInt8

/-- The natural number a double is. -/
def naturalOf (x : Float) : Option Nat :=
  if isIntegral x then (truncate x).bind fun value => if 0 ≤ value then some value.toNat else none
  else none

/-- The channel of a message in either encoding. -/
def channelField (codec : Codec ι) (fuel : Nat) (payload : Bytes) (isCbor : Bool) : ChannelField :=
  if codec.configUseCbor && isCbor then
    match commandChannel codec.cbor fuel payload with
    | .ok said => ⟨said.map UInt64.toNat, (said.getD 0).toUInt8⟩
    | .error _ => ⟨none, 0⟩
  else
    let setPwm := (codec.cjson.parse payload).bind fun root => commandSection root (ascii "set_pwm")
    ⟨naturalOf (memberNumber setPwm (ascii "ch")), jsonUint8 codec.target setPwm (ascii "ch")⟩

section Narrow

variable {cbor : Tinycbor ι}

/-- The decoder keeps eight bits of the number that was said. -/
def Narrows (update : ProtoCommand → ProtoCommand) (say : Option UInt64 → Option UInt64) : Prop :=
  ∀ msg said, msg.pwmUpdate.channel = (said.getD 0).toUInt8 →
    (update msg).pwmUpdate.channel = ((say said).getD 0).toUInt8

theorem Narrows.comp {f g : ProtoCommand → ProtoCommand} {f' g' : Option UInt64 → Option UInt64}
    (hf : Narrows f f') (hg : Narrows g g') : Narrows (g ∘ f) (g' ∘ f') :=
  fun msg said h => hg _ _ (hf msg said h)

theorem Narrows.id_id : Narrows id id :=
  fun _ _ h => h

theorem setPwmEntry_alike (it : ι) :
    Alike (SameControl Narrows) (setPwmEntry cbor it) (channelEntry cbor it) := by
  refine (Alike.refl (copyChecked cbor it 7)).bind fun value value' heq => ?_
  subst heq
  refine ⟨rfl, fun msg said h => ?_⟩
  by_cases hch : value.1 = ascii "ch"
  · simp only [if_pos hch]
    rfl
  · simp only [if_neg hch]
    split
    · exact h
    · exact h

/-- An update that leaves the channel alone. -/
def KeepsChannel (update : ProtoCommand → ProtoCommand) : Prop :=
  ∀ msg, (update msg).pwmUpdate.channel = msg.pwmUpdate.channel

theorem KeepsChannel.comp {f g : ProtoCommand → ProtoCommand} (hf : KeepsChannel f)
    (hg : KeepsChannel g) : KeepsChannel (g ∘ f) :=
  fun msg => (hg (f msg)).trans (hf msg)

/-- A loop of updates that leave the channel alone. -/
theorem whileNotAtEnd_keepsChannel {body : ι → Run ι (ι × (ProtoCommand → ProtoCommand))}
    (hbody : ∀ it next update, body it = .ok (next, update) → KeepsChannel update) {fuel : Nat}
    {it final : ι} {update : ProtoCommand → ProtoCommand}
    (h : whileNotAtEnd cbor body fuel it = .ok (final, update)) : KeepsChannel update :=
  whileLoop_updates KeepsChannel (fun _ => rfl) KeepsChannel.comp hbody h

theorem pwmFreqEntry_keepsChannel {it next : ι} {update : ProtoCommand → ProtoCommand}
    (h : pwmFreqEntry cbor it = .ok (next, update)) : KeepsChannel update := by
  rw [pwmFreqEntry] at h
  generalize copyIgnoring cbor it 7 = copied at h
  cases h
  intro msg
  dsimp only
  split
  · rfl
  · rfl

theorem writeGpioEntry_keepsChannel {it next : ι} {update : ProtoCommand → ProtoCommand}
    (h : writeGpioEntry cbor it = .ok (next, update)) : KeepsChannel update := by
  simp only [writeGpioEntry] at h
  split at h
  · cases h
    exact fun _ => rfl
  split at h
  · cases h
    exact fun _ => rfl
  · cases h
    intro msg
    dsimp only
    split
    · rfl
    · split <;> rfl

/-- No entry but `set_pwm` touches the channel. -/
theorem commandEntry_keepsChannel {fuel : Nat} {map inside next : ι} {key : Bytes}
    {update : ProtoCommand → ProtoCommand} (hcopy : copyChecked cbor map 15 = .ok (key, inside))
    (hkey : key ≠ ascii "set_pwm") (h : commandEntry cbor fuel map = .ok (next, update)) :
    KeepsChannel update := by
  rw [commandEntry, hcopy] at h
  obtain ⟨_, heq, h⟩ := bind_eq_ok_iff.mp h
  cases heq
  dsimp only at h
  split_ifs at h
  · obtain ⟨ts, -, h⟩ := bind_eq_ok_iff.mp h
    cases h
    exact fun _ => rfl
  · obtain ⟨seq, -, h⟩ := bind_eq_ok_iff.mp h
    cases h
    exact fun _ => rfl
  · obtain ⟨inner, -, h⟩ := bind_eq_ok_iff.mp h
    obtain ⟨⟨final, update⟩, hloop, h⟩ := bind_eq_ok_iff.mp h
    cases h
    exact whileNotAtEnd_keepsChannel (fun _ _ _ => pwmFreqEntry_keepsChannel) hloop
  · obtain ⟨inner, -, h⟩ := bind_eq_ok_iff.mp h
    obtain ⟨⟨final, update⟩, hloop, h⟩ := bind_eq_ok_iff.mp h
    cases h
    have hkeeps := whileNotAtEnd_keepsChannel (fun _ _ _ => writeGpioEntry_keepsChannel) hloop
    exact fun msg => hkeeps msg
  · cases h
    exact fun _ => rfl

theorem commandEntry_alike (fuel : Nat) (map : ι) :
    Alike (SameControl Narrows) (commandEntry cbor fuel map)
      (commandChannelEntry cbor fuel map) := by
  rw [commandChannelEntry]
  cases hcopy : copyChecked cbor map 15 with
  | error stop =>
      rw [commandEntry, hcopy]
      exact rfl
  | ok copied =>
      obtain ⟨key, inside⟩ := copied
      by_cases hkey : key = ascii "set_pwm"
      · have hts : key ≠ ascii "ts" := by
          rw [hkey]
          decide
        have hseq : key ≠ ascii "seq" := by
          rw [hkey]
          decide
        rw [commandEntry, hcopy]
        show Alike _ (if key = ascii "ts" then _ else _) (if key = ascii "set_pwm" then _ else _)
        rw [if_neg hts, if_neg hseq, if_pos hkey, if_pos hkey]
        refine (Alike.refl (check (cbor.enterContainer inside))).bind fun pwmMap pwmMap' heq => ?_
        subst heq
        refine (whileLoop_alike Narrows.id_id Narrows.comp setPwmEntry_alike fuel pwmMap).bind
          fun step step' hstep => ⟨?_, fun msg said h => hstep.2 msg said h⟩
        rw [hstep.1]
      · show Alike _ _ (if key = ascii "set_pwm" then _ else _)
        rw [if_neg hkey]
        cases hentry : commandEntry cbor fuel map with
        | error stop => exact rfl
        | ok step =>
            exact ⟨rfl, fun msg said h =>
              (commandEntry_keepsChannel hcopy hkey hentry msg).trans h⟩

/-- The decoder stores eight bits of the number the message gives. -/
theorem decodeCommandCbor_channel {fuel : Nat} {payload : Bytes} {cmd : ProtoCommand}
    (h : decodeCommandCbor cbor fuel payload = .ok cmd) :
    ∃ said, commandChannel cbor fuel payload = .ok said ∧
      cmd.pwmUpdate.channel = (said.getD 0).toUInt8 := by
  refine @Alike.ok_iff _ _ _ (fun (cmd : ProtoCommand) (said : Option UInt64) =>
    cmd.pwmUpdate.channel = (said.getD 0).toUInt8) _ _ _ ?_ h
  rw [decodeCommandCbor, commandChannel]
  refine (Alike.refl (check (cbor.parserInit payload))).bind fun root root' heq => ?_
  subst heq
  dsimp only
  split
  case isFalse => exact rfl
  case isTrue =>
    refine (Alike.refl (check (cbor.enterContainer root))).bind fun map map' heq => ?_
    subst heq
    exact (whileLoop_alike Narrows.id_id Narrows.comp (commandEntry_alike fuel) fuel map).bind
      fun step step' hstep => hstep.2 {} none rfl

end Narrow

section Field

variable {codec : Codec ι} {fuel : Nat} {payload : Bytes} {isCbor : Bool} {expectedCrc32 : UInt32}
  {cmd : ProtoCommand}

/-- The channel of an accepted command is what the decoder's eight bits make of the number. -/
theorem channel_of_decode
    (h : protoDecodeCommand codec fuel payload isCbor expectedCrc32 = .ok cmd)
    (hflag : cmd.hasPwmUpdate = true) :
    cmd.pwmUpdate.channel = (channelField codec fuel payload isCbor).narrowed := by
  have hcrc := crcAccepts_of_decodeCommand h
  rw [channelField]
  cases hmode : codec.configUseCbor && isCbor with
  | true =>
      rw [protoDecodeCommand, hcrc, hmode] at h
      obtain ⟨said, hsaid, hchannel⟩ := decodeCommandCbor_channel h
      rw [hsaid]
      exact hchannel
  | false =>
      rw [protoDecodeCommand_json hmode hcrc] at h
      cases hparse : codec.cjson.parse payload with
      | none => simp [decodeCommandJson, hparse, check] at h
      | some root =>
          obtain ⟨msg, hdecode, htaken⟩ :=
            @decodeCommandJson_taken codec.cjson codec.target payload root hparse
          rw [hdecode] at h
          cases h
          exact (htaken.pwmUpdate hflag).1

/-- A named channel survives the narrowing. -/
theorem narrowed_of_named {channel : Fin 16}
    (h : (channelField codec fuel payload isCbor).named = some channel.val) :
    (channelField codec fuel payload isCbor).narrowed = UInt8.ofNat channel.val := by
  have hsmall := channel.isLt
  rw [channelField] at h ⊢
  cases hmode : codec.configUseCbor && isCbor with
  | true =>
      simp only [hmode, if_true] at h ⊢
      cases hsaid : commandChannel codec.cbor fuel payload with
      | error stop =>
          rw [hsaid] at h
          cases h
      | ok said =>
          rw [hsaid] at h
          obtain ⟨number, rfl, hnumber⟩ := Option.map_eq_some_iff.mp h
          apply UInt8.toNat_inj.mp
          show number.toUInt8.toNat = _
          rw [UInt64.toNat_toUInt8, hnumber, UInt8.toNat_ofNat']
  | false =>
      simp only [hmode, Bool.false_eq_true, if_false] at h ⊢
      rw [naturalOf] at h
      split at h
      case isFalse => cases h
      case isTrue hintegral =>
        obtain ⟨value, hvalue, hnatural⟩ := Option.bind_eq_some_iff.mp h
        split at hnatural
        case isFalse => cases hnatural
        case isTrue hpos =>
          have heq : value = (channel.val : Int) := by
            have := Option.some.inj hnatural
            omega
          have hunsigned : IsUnsigned 8 (memberNumber _ (ascii "ch")) channel.val :=
            ⟨hintegral, hvalue.trans (by rw [heq]), by omega⟩
          rw [jsonUint8, ← memberNumber, CTarget.toUnsigned_eq hunsigned]

end Field

/-- A command as `ws_rx` receives and accepts it. -/
structure AcceptedCommand (codec : Codec ι) where
  fuel : Nat
  payload : Bytes
  crc : UInt32
  cmd : ProtoCommand
  accepted : protoDecodeCommand codec fuel payload codec.configUseCbor crc = .ok cmd

namespace AcceptedCommand

variable {codec : Codec ι} (message : AcceptedCommand codec)

/-- What the message says about its channel. -/
def field : ChannelField :=
  channelField codec message.fuel message.payload codec.configUseCbor

/-- The message sets the duty of the channel it names. -/
def Names (channel : Fin 16) : Prop :=
  message.cmd.hasPwmUpdate = true ∧ message.field.named = some channel.val

instance (channel : Fin 16) : Decidable (message.Names channel) :=
  inferInstanceAs (Decidable (_ ∧ _))

/-- The channel the task takes for the number of the message. -/
def reduced : Fin 16 :=
  ⟨message.field.narrowed.toNat % 16, Nat.mod_lt _ (by decide)⟩

end AcceptedCommand

variable {codec : Codec ι}

/-- The duties the messages set on the channels they name, in order. -/
def namedDuties (messages : List (AcceptedCommand codec)) : List (Fin 16 × UInt16) :=
  messages.flatMap fun message =>
    ((List.finRange 16).filter fun channel => message.Names channel).map fun channel =>
      (channel, message.cmd.pwmUpdate.dutyCycle)

/-- The sections of one command, executed by `io_task`. -/
def executeCommand (map : IoMap) (results : Nat → EspErr) (node : IoNode)
    (message : AcceptedCommand codec) : IoNode × List IoOutput :=
  Machine.run (ioExecute map results) node (commandSections message.cmd)

/-- The duty on every channel is the one of the last message that named it, or the one before the
run. -/
def FollowsNames (start node : IoNode) (messages : List (AcceptedCommand codec)) : Prop :=
  ∀ channel : Fin 16, node.pwm.get channel =
    (Writes.last channel (namedDuties messages)).getD (start.pwm.get channel)

/-- A message that names no channel changes no duty, and the controller gets only duties it was
given before. -/
def Harmless (map : IoMap) (results : Nat → EspErr) (node : IoNode)
    (message : AcceptedCommand codec) : Prop :=
  (∀ channel, ¬ message.Names channel) →
    (executeCommand map results node message).1.pwm = node.pwm ∧
      ∀ channel duty, .pca9685SetPwm channel duty ∈ (executeCommand map results node message).2 →
        ∃ i : Fin 16, channel = UInt8.ofNat i.val ∧ duty = node.pwm.get i

/-- A message that sets a duty names a channel, or sets the duty that is there already. -/
def NamesAChannel (node : IoNode) (message : AcceptedCommand codec) : Prop :=
  message.cmd.hasPwmUpdate = true →
    (∃ channel : Fin 16, message.field.named = some channel.val) ∨
      node.pwm.get message.reduced = message.cmd.pwmUpdate.dutyCycle

section Execute

variable {map : IoMap} {results : Nat → EspErr} {node : IoNode} {message : AcceptedCommand codec}

/-- What a command does to the duties. -/
theorem executeCommand_pwm :
    (executeCommand map results node message).1.pwm =
      if message.cmd.hasPwmUpdate then
        node.pwm.set message.reduced.val message.cmd.pwmUpdate.dutyCycle message.reduced.isLt
      else node.pwm := by
  have hchannel := fun hflag => channel_of_decode message.accepted hflag
  rw [executeCommand, commandSections]
  cases hflag : message.cmd.hasPwmUpdate with
  | true =>
      have hreduced : message.cmd.pwmUpdate.channel.toNat % 16 = message.reduced.val := by
        rw [hchannel hflag]
        rfl
      cases hfreq : message.cmd.hasPwmFrequency <;> cases hgpio : message.cmd.hasGpioWrite <;>
        simp [ioExecute, hreduced]
  | false =>
      cases hfreq : message.cmd.hasPwmFrequency <;> cases hgpio : message.cmd.hasGpioWrite <;>
        simp [ioExecute]

/-- Every call that sets a channel of the controller passes the duty kept for it. -/
theorem ioExecute_calls {command : IoCommand} {channel : UInt8} {duty : UInt16}
    (h : .pca9685SetPwm channel duty ∈ (ioExecute map results node command).2) :
    ∃ i : Fin 16, channel = UInt8.ofNat i.val ∧
      duty = (ioExecute map results node command).1.pwm.get i := by
  cases command with
  | setPwm written value =>
      simp only [ioExecute] at h ⊢
      split at h
      case isFalse => cases h
      case isTrue =>
        obtain ⟨rfl, rfl⟩ := IoOutput.pca9685SetPwm.inj (List.mem_singleton.mp h)
        refine ⟨⟨written.toNat % 16, Nat.mod_lt _ (by decide)⟩, ?_, ?_⟩
        · apply UInt8.toNat_inj.mp
          rw [UInt8.toNat_mod, UInt8.toNat_ofNat']
          show written.toNat % 16 = written.toNat % 16 % 256
          omega
        · simp [Vector.get_eq_getElem]
  | setPwmFreq pwmFreq =>
      simp only [ioExecute] at h ⊢
      split at h
      case isFalse => cases h
      case isTrue =>
        rcases List.mem_cons.mp h with hinit | hset
        · cases hinit
        · obtain ⟨i, -, heq⟩ := List.mem_map.mp hset
          obtain ⟨rfl, rfl⟩ := IoOutput.pca9685SetPwm.inj heq
          exact ⟨i, rfl, rfl⟩
  | writeGpio deviceIndex port mask value => cases h

/-- Sections that set no duty keep all duties and pass only these on. -/
theorem run_calls {sections : List IoCommand}
    (hother : ∀ command ∈ sections, ∀ channel duty, command ≠ .setPwm channel duty) :
    (Machine.run (ioExecute map results) node sections).1.pwm = node.pwm ∧
      ∀ channel duty,
        .pca9685SetPwm channel duty ∈ (Machine.run (ioExecute map results) node sections).2 →
          ∃ i : Fin 16, channel = UInt8.ofNat i.val ∧ duty = node.pwm.get i := by
  induction sections generalizing node with
  | nil => exact ⟨rfl, fun _ _ h => absurd h List.not_mem_nil⟩
  | cons command rest ih =>
      have hkept : (ioExecute map results node command).1.pwm = node.pwm := by
        cases command with
        | setPwm channel duty => exact absurd rfl (hother _ List.mem_cons_self channel duty)
        | setPwmFreq | writeGpio => rfl
      obtain ⟨hpwm, hcalls⟩ := @ih (ioExecute map results node command).1
        fun later hmem => hother later (List.mem_cons_of_mem _ hmem)
      rw [hkept] at hpwm hcalls
      refine ⟨hpwm, fun channel duty h => ?_⟩
      rcases List.mem_append.mp h with hfirst | hlater
      · obtain ⟨i, hchannel, hduty⟩ := ioExecute_calls hfirst
        exact ⟨i, hchannel, hduty.trans (by rw [hkept])⟩
      · exact hcalls channel duty hlater

/-- Every call of a command passes a duty that is kept after it. -/
theorem executeCommand_calls {channel : UInt8} {duty : UInt16}
    (h : .pca9685SetPwm channel duty ∈ (executeCommand map results node message).2) :
    ∃ i : Fin 16, channel = UInt8.ofNat i.val ∧
      duty = (executeCommand map results node message).1.pwm.get i := by
  rw [executeCommand, commandSections, List.append_assoc, Machine.run_append] at h ⊢
  generalize hfirst : (if message.cmd.hasPwmUpdate then
    [IoCommand.setPwm message.cmd.pwmUpdate.channel message.cmd.pwmUpdate.dutyCycle] else []) =
      first at h ⊢
  obtain ⟨hpwm, hcalls⟩ := @run_calls map results
    (Machine.run (ioExecute map results) node first).1
    ((if message.cmd.hasPwmFrequency then [.setPwmFreq message.cmd.pwmFrequency] else []) ++
      if message.cmd.hasGpioWrite then
        [.writeGpio message.cmd.gpioWrite.deviceIndex message.cmd.gpioWrite.port
          message.cmd.gpioWrite.mask message.cmd.gpioWrite.value]
      else []) (by
        intro command hmem channel duty
        rcases List.mem_append.mp hmem with hfreq | hgpio
        · split at hfreq
          · rw [List.mem_singleton.mp hfreq]
            exact IoCommand.noConfusion
          · cases hfreq
        · split at hgpio
          · rw [List.mem_singleton.mp hgpio]
            exact IoCommand.noConfusion
          · cases hgpio)
  rw [hpwm]
  rcases List.mem_append.mp h with hset | hlater
  · by_cases hflag : message.cmd.hasPwmUpdate = true
    · rw [if_pos hflag] at hfirst
      subst hfirst
      simp only [Machine.run_cons, Machine.run_nil, List.append_nil] at hset ⊢
      exact ioExecute_calls hset
    · rw [if_neg hflag] at hfirst
      subst hfirst
      cases hset
  · exact hcalls channel duty hlater

/-- The same duty on some channels. -/
theorem last_map (channel : Fin 16) (channels : List (Fin 16)) (duty : UInt16) :
    Writes.last channel (channels.map fun channel => (channel, duty)) =
      if channel ∈ channels then some duty else none := by
  induction channels with
  | nil => rfl
  | cons first rest ih =>
      rw [List.map_cons, Writes.last, ih]
      by_cases hrest : channel ∈ rest
      · simp [hrest]
      · by_cases hsame : first = channel
        · simp [hrest, hsame]
        · simp [hrest, hsame, Ne.symm hsame]

/-- The duty one message sets on a channel. -/
theorem last_namedDuties (message : AcceptedCommand codec) (channel : Fin 16) :
    Writes.last channel (namedDuties [message]) =
      if message.Names channel then some message.cmd.pwmUpdate.dutyCycle else none := by
  rw [namedDuties, List.flatMap_singleton, last_map]
  simp

/-- One command leaves the duties where the names say if and only if it names a channel or changes
nothing. -/
theorem executeCommand_follows_iff :
    FollowsNames node (executeCommand map results node message).1 [message] ↔
      NamesAChannel node message := by
  simp only [FollowsNames, last_namedDuties, executeCommand_pwm, NamesAChannel]
  cases hflag : message.cmd.hasPwmUpdate with
  | false =>
      refine iff_of_true (fun channel => ?_) fun h => Bool.noConfusion h
      have hnot : ¬ message.Names channel := fun h => by
        rw [h.1] at hflag
        cases hflag
      rw [if_neg hnot]
      rfl
  | true =>
      by_cases hnamed : ∃ channel : Fin 16, message.field.named = some channel.val
      · refine iff_of_true (fun channel => ?_) fun _ => .inl hnamed
        obtain ⟨named, hfield⟩ := hnamed
        have hreduced : message.reduced = named := by
          apply Fin.ext
          show (channelField codec message.fuel message.payload codec.configUseCbor).narrowed.toNat
            % 16 = named.val
          have hsmall := named.isLt
          rw [narrowed_of_named hfield, UInt8.toNat_ofNat']
          omega
        have hnames : message.Names channel ↔ named = channel := by
          rw [AcceptedCommand.Names, hfield, Option.some_inj, Fin.ext_iff]
          exact and_iff_right hflag
        simp only [if_true, hnames, hreduced, Vector.get_eq_getElem, Vector.getElem_set,
          Fin.ext_iff]
        split <;> rfl
      · have hnot : ∀ channel, ¬ message.Names channel := fun channel h => hnamed ⟨channel, h.2⟩
        simp only [hnot, if_true, if_false, Option.getD_none, hnamed, false_or, forall_const]
        constructor
        · intro h
          have hreduced := h message.reduced
          simp only [Vector.get_eq_getElem, Vector.getElem_set, if_true] at hreduced
          exact hreduced.symm
        · intro h channel
          simp only [Vector.get_eq_getElem, Vector.getElem_set] at h ⊢
          split
          case isTrue hsame =>
            rw [← h]
            congr 1
          case isFalse => rfl

/-- A command that names a channel or changes nothing is harmless. -/
theorem harmless_of_namesAChannel (h : NamesAChannel node message) :
    Harmless map results node message := by
  intro hnames
  have hkept : (executeCommand map results node message).1.pwm = node.pwm := by
    refine Vector.ext fun i hi => ?_
    have hfollows := (@executeCommand_follows_iff _ _ map results node message).mpr h ⟨i, hi⟩
    rw [last_namedDuties, if_neg (hnames _)] at hfollows
    simpa only [Vector.get_eq_getElem, Option.getD_none] using hfollows
  refine ⟨hkept, fun channel duty hcall => ?_⟩
  obtain ⟨i, hchannel, hduty⟩ := executeCommand_calls hcall
  exact ⟨i, hchannel, hduty.trans (by rw [hkept])⟩

end Execute

/-- Once the first message left the duties where it says, the others go on from there. -/
theorem followsNames_cons {start first final : IoNode} {message : AcceptedCommand codec}
    {rest : List (AcceptedCommand codec)} (h : FollowsNames start first [message]) :
    FollowsNames start final (message :: rest) ↔ FollowsNames first final rest := by
  have happend : namedDuties (message :: rest) = namedDuties [message] ++ namedDuties rest := by
    simp [namedDuties]
  refine forall_congr' fun channel => ?_
  rw [happend, Writes.last_append, h channel]
  cases Writes.last channel (namedDuties rest) <;> exact Iff.rfl

/-- In every run of accepted commands the duty of each channel is, after every prefix, the one of
the last message that named it, and a message that names none changes nothing, if and only if every
message with a duty names a channel or sets the duty that is there. -/
theorem channels_isolated_iff (map : IoMap) (results : Nat → EspErr) (start : IoNode)
    (messages : List (AcceptedCommand codec)) :
    ((∀ earlier later, messages = earlier ++ later →
        FollowsNames start (Machine.run (executeCommand map results) start earlier).1 earlier) ∧
      Machine.EachStep (executeCommand map results) (Harmless map results) start messages) ↔
    Machine.EachStep (executeCommand map results) NamesAChannel start messages := by
  induction messages generalizing start with
  | nil =>
      refine iff_of_true ⟨fun earlier later happend => ?_, trivial⟩ trivial
      rw [(List.append_eq_nil_iff.mp happend.symm).1]
      exact fun _ => rfl
  | cons message rest ih =>
      constructor
      · rintro ⟨hall, hharmless⟩
        have hfirst : FollowsNames start (executeCommand map results start message).1 [message] :=
          hall [message] rest rfl
        refine ⟨executeCommand_follows_iff.mp hfirst, (ih _).mp ⟨?_, hharmless.2⟩⟩
        intro earlier later happend
        exact (followsNames_cons hfirst).mp (hall (message :: earlier) later (by rw [happend]; rfl))
      · rintro ⟨hnames, hlater⟩
        obtain ⟨hall, hharmless⟩ := (ih _).mpr hlater
        refine ⟨fun earlier later happend => ?_, harmless_of_namesAChannel hnames, hharmless⟩
        cases earlier with
        | nil => exact fun _ => rfl
        | cons first earlier =>
            obtain ⟨rfl, hrest⟩ := List.cons.inj happend
            exact (followsNames_cons (executeCommand_follows_iff.mpr hnames)).mpr
              (hall earlier later hrest)

/-- The command that sets channel 19. -/
def channel19 : ProtoCommand :=
  { hasPwmUpdate := true, pwmUpdate := { channel := 19, dutyCycle := 5 } }

/-- Its JSON text is accepted. -/
def channel19Command : AcceptedCommand (Codec.plain false) where
  fuel := 0
  payload := Json.render (commandJson channel19)
  crc := 0
  cmd := channel19
  accepted := protoDecodeCommand_render
    ⟨.inl rfl, .inl rfl, fun h => Bool.noConfusion h, fun _ => rfl, fun _ => rfl⟩ rfl rfl

/-- It names no channel and changes the duty of channel 3. -/
theorem channel_19_changes_channel_3 :
    let start := ioTaskStart (fun _ _ => .ok) fun _ => {}
    (∀ channel, ¬ channel19Command.Names channel) ∧ start.pwm.get 3 = 0 ∧
      (executeCommand {} (fun _ => .ok) start channel19Command).1.pwm.get 3 = 5 ∧
      ¬ FollowsNames start (executeCommand {} (fun _ => .ok) start channel19Command).1
        [channel19Command] := by
  have hparse : (Codec.plain false).cjson.parse (Json.render (commandJson channel19)) =
      some (commandJson channel19) := Json.parse_render _
  have hnamed : channel19Command.field.named = some 19 := by
    have hnumber : naturalOf (ofNatural 19) = some 19 := by decide
    have hmember : memberNumber (commandSection (commandJson channel19) (ascii "set_pwm"))
        (ascii "ch") = ofNatural 19 := rfl
    show naturalOf (memberNumber (((Codec.plain false).cjson.parse
      (Json.render (commandJson channel19))).bind fun root =>
        commandSection root (ascii "set_pwm")) (ascii "ch")) = _
    rw [hparse, Option.bind_some, hmember, hnumber]
  have hnone : ∀ channel, ¬ channel19Command.Names channel := by
    rintro channel ⟨-, hsome⟩
    rw [hnamed] at hsome
    have hvalue := Option.some.inj hsome
    have hsmall := channel.isLt
    omega
  have hduty : (executeCommand {} (fun _ => .ok) (ioTaskStart (fun _ _ => .ok) fun _ => {})
      channel19Command).1.pwm.get 3 = 5 := by
    decide +kernel
  refine ⟨hnone, rfl, hduty, fun hfollows => ?_⟩
  have hzero := hfollows 3
  rw [hduty, last_namedDuties, if_neg (hnone 3)] at hzero
  exact absurd hzero (by decide)

end SensorHmi
