import SensorHmi.Proto.CborShape

/-!
# When the CBOR decoders end

An entry whose key cannot be read and whose value cannot be skipped leaves the iterator where it
was. In the maps whose errors the decoders ignore, the loop then never ends. `cbor_decoders_end_iff`
says on which payloads that happens.
-/

namespace SensorHmi

open Octets Cbor Loop

variable {ι : Type}

/-- On every payload each decoder returns after finitely many iterations, if and only if the CRC
check refuses the payload, CBOR is not in use, or the payload does not stick: none of the containers
whose errors the decoder ignores has, behind entries that conform, one whose key is no text and
whose value cannot be skipped. -/
theorem cbor_decoders_end_iff (codec : Codec ι) (payload : Bytes) (expectedCrc32 : UInt32) :
    ((∃ fuel, Ends (protoDecodeCommand codec fuel payload true expectedCrc32)) ↔
      crcAccepts payload expectedCrc32 = false ∨ codec.configUseCbor = false ∨
        ¬ PayloadSticks codec.cbor commandFields payload) ∧
    ((∃ fuel, Ends (protoDecodeSensorUpdate codec fuel payload true expectedCrc32)) ↔
      crcAccepts payload expectedCrc32 = false ∨ codec.configUseCbor = false ∨
        ¬ PayloadSticks codec.cbor sensorUpdateFields payload) := by
  unfold protoDecodeCommand protoDecodeSensorUpdate
  cases crcAccepts payload expectedCrc32 with
  | false => simp [ends_rejected]
  | true =>
      cases codec.configUseCbor with
      | false => simp [ends_check]
      | true =>
          simp only [Bool.not_true, Bool.false_eq_true, if_false, Bool.and_true, if_true,
            Bool.true_eq_false, false_or]
          exact ⟨decodeCommandCbor_settles.ends_iff, decodeSensorUpdateCbor_settles.ends_iff⟩

/-- A command whose `pwm_freq` map is cut off behind its first value. -/
def truncatedCommand : Bytes :=
  0xBF :: 0x68 :: ascii "pwm_freq" ++ 0xBF :: 0x64 :: ascii "freq" ++ [5]

/-- The command decoder never returns on it: the number at the end is no key, and there is nothing
behind it to go on to. -/
theorem truncated_command_never_ends :
    ¬ ∃ fuel, Ends (protoDecodeCommand (Codec.plain true) fuel truncatedCommand true 0) := by
  have hsticks : PayloadSticks (Codec.plain true).cbor commandFields truncatedCommand := by
    refine ⟨_, rfl, rfl, _, _, rfl, .refl, rfl, .inr ⟨ascii "pwm_freq", _, rfl, ?_⟩⟩
    refine ⟨_, _, rfl, .single ⟨rfl, ascii "freq", _, rfl, rfl⟩, rfl, .inl ⟨rfl, [], rfl, rfl⟩⟩
  rintro ⟨fuel, hends⟩
  exact decodeCommandCbor_settles.not_ends hsticks fuel hends

end SensorHmi
