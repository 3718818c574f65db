import SensorHmi.Lib.Machine
import SensorHmi.Net.WsSecurity

/-!
# A session of sealed frames

One sender seals plaintexts in turn and one receiver is offered arbitrary buffers. The receiver
opens none of them, so it takes nothing out of order and nothing twice, but what it is sent
unaltered it does not take either. Read `session_accepts_in_order_iff` first.
-/

namespace SensorHmi

open Octets

/-- One call of `ws_security_encrypt`: its plaintext, the IV drawn, and the room in `out`. -/
structure SealRequest where
  plaintext : Bytes
  iv : Vector UInt8 12
  outSize : Nat

/-- The frames a sender makes in turn, each with its plaintext. -/
def sealAll (gcm : Gcm) : WsSecurityContext → List SealRequest → List (Bytes × Bytes)
  | _, [] => []
  | ctx, request :: rest =>
      match wsSecurityEncrypt gcm request.iv ctx request.plaintext request.outSize with
      | (.ok frame, ctx) => (frame, request.plaintext) :: sealAll gcm ctx rest
      | (.error _, ctx) => sealAll gcm ctx rest

/-- One buffer is offered to `ws_security_decrypt`; what is accepted shows with its plaintext. -/
def receiveStep (gcm : Gcm) (ctx : WsSecurityContext) (counterState : UInt64) (buffer : Bytes) :
    UInt64 × List (Bytes × Bytes) :=
  match wsSecurityDecrypt gcm ctx buffer counterState with
  | (.ok plaintext, counterState) => (counterState, [(buffer, plaintext)])
  | (.error _, counterState) => (counterState, [])

/-- A rejected buffer leaves the counter as it was. -/
def RejectedKeeps (gcm : Gcm) (ctx : WsSecurityContext) (counterState : UInt64) (buffer : Bytes) :
    Prop :=
  (receiveStep gcm ctx counterState buffer).2 = [] →
    (receiveStep gcm ctx counterState buffer).1 = counterState

/-- A sealed frame whose counter exceeds the receiver's is accepted as its plaintext. -/
def GenuineAccepted (gcm : Gcm) (ctx : WsSecurityContext) (frames : List (Bytes × Bytes))
    (counterState : UInt64) (buffer : Bytes) : Prop :=
  ∀ plaintext, (buffer, plaintext) ∈ frames → counterState < frameCounter buffer →
    (receiveStep gcm ctx counterState buffer).2 = [(buffer, plaintext)]

/-- What a session promises of the buffers offered to its receiver: those accepted are a subsequence
of the sealed frames, none twice, with their plaintexts; a rejected buffer leaves the counter; and a
sealed frame ahead of the counter is accepted. -/
structure SessionLaw (gcm : Gcm) (ctx : WsSecurityContext) (frames : List (Bytes × Bytes))
    (buffers : List Bytes) : Prop where
  inOrder : (Machine.run (receiveStep gcm ctx) 0 buffers).2.Sublist frames
  once : ((Machine.run (receiveStep gcm ctx) 0 buffers).2.map Prod.fst).Nodup
  rejected : Machine.EachStep (receiveStep gcm ctx) (RejectedKeeps gcm ctx) 0 buffers
  genuine : Machine.EachStep (receiveStep gcm ctx) (GenuineAccepted gcm ctx frames) 0 buffers

section Sealed

variable {gcm : Gcm} {tx : WsSecurityContext} {requests : List SealRequest}

/-- Short of `2 ^ 64` calls the counters of the frames exceed the sender's. -/
theorem lt_frameCounter_of_mem_sealAll (henabled : tx.encryptionEnabled = true)
    (hcount : tx.txCounter.toNat + requests.length < 2 ^ 64) {entry : Bytes × Bytes}
    (h : entry ∈ sealAll gcm tx requests) : tx.txCounter < frameCounter entry.1 := by
  induction requests generalizing tx with
  | nil => cases h
  | cons request rest ih =>
      have hnext : (tx.txCounter + 1).toNat = tx.txCounter.toNat + 1 := by
        rw [UInt64.toNat_add, UInt64.toNat_one, Nat.mod_eq_of_lt]
        simp only [List.length_cons] at hcount
        omega
      have hlt : tx.txCounter < tx.txCounter + 1 := by
        rw [UInt64.lt_iff_toNat_lt, hnext]
        omega
      simp only [List.length_cons] at hcount
      -- behind a frame, or a call of AES-GCM that failed, the sender counts from the next value
      have hlater : ∀ {tx' : WsSecurityContext},
          tx' = { tx with txCounter := tx.txCounter + 1 } → entry ∈ sealAll gcm tx' rest →
            tx.txCounter < frameCounter entry.1 := by
        rintro tx' rfl hmem
        have hcount' : (tx.txCounter + 1).toNat + rest.length < 2 ^ 64 := by omega
        exact UInt64.lt_trans hlt (@ih { tx with txCounter := tx.txCounter + 1 } henabled hcount'
          hmem)
      simp only [sealAll] at h
      rcases hencrypt : wsSecurityEncrypt gcm request.iv tx request.plaintext request.outSize with
        ⟨_ | frame, tx'⟩
      case error err =>
        rw [hencrypt] at h
        rcases wsSecurityEncrypt_context hencrypt with rfl | hctx
        · exact ih henabled (by omega) h
        · exact hlater hctx h
      case ok =>
        rw [hencrypt] at h
        rcases List.mem_cons.mp h with rfl | hmem
        · rw [(frameShaped_of_encrypt henabled hencrypt).2]
          exact hlt
        · exact hlater (wsSecurityEncrypt_ok henabled hencrypt).1 hmem

end Sealed

section Receiver

variable {gcm : Gcm} {rx : WsSecurityContext} {state : UInt64} {buffer : Bytes}

/-- With encryption on a receiver takes nothing and does not move. -/
theorem receiveStep_sealed (henabled : rx.encryptionEnabled = true) :
    receiveStep gcm rx state buffer = (state, []) := by
  obtain ⟨err, hrefused⟩ := @wsSecurityDecrypt_sealed gcm rx buffer state henabled
  rw [receiveStep, hrefused]

theorem run_receiveStep_sealed (henabled : rx.encryptionEnabled = true) (buffers : List Bytes) :
    Machine.run (receiveStep gcm rx) state buffers = (state, []) := by
  induction buffers with
  | nil => rfl
  | cons buffer rest ih => rw [Machine.run_cons, receiveStep_sealed henabled, ih]; rfl

/-- A property of the start and one buffer holds at each step exactly if it holds of each buffer. -/
theorem eachStep_receiveStep_sealed (henabled : rx.encryptionEnabled = true)
    {Property : UInt64 → Bytes → Prop} (buffers : List Bytes) :
    Machine.EachStep (receiveStep gcm rx) Property state buffers ↔
      ∀ buffer ∈ buffers, Property state buffer := by
  induction buffers with
  | nil => simp [Machine.EachStep]
  | cons buffer rest ih =>
      rw [Machine.EachStep, receiveStep_sealed henabled, ih, List.forall_mem_cons]

end Receiver

/-- One session, whatever AES-GCM and whatever buffers are offered: the law of the session holds if
and only if no sealed frame is among the buffers as it was sealed. -/
theorem session_accepts_in_order_iff {gcm : Gcm} {tx rx : WsSecurityContext}
    (htx : tx.encryptionEnabled = true) (hstart : tx.txCounter = 0)
    (hrx : rx.encryptionEnabled = true) (requests : List SealRequest)
    (hcount : requests.length < 2 ^ 64) (buffers : List Bytes) :
    SessionLaw gcm rx (sealAll gcm tx requests) buffers ↔
      ∀ buffer ∈ buffers, ∀ plaintext, (buffer, plaintext) ∉ sealAll gcm tx requests := by
  constructor
  · rintro ⟨-, -, -, hgenuine⟩ buffer hbuffer plaintext hmem
    rw [eachStep_receiveStep_sealed hrx] at hgenuine
    have hnew : 0 < frameCounter buffer := by
      have hlt := lt_frameCounter_of_mem_sealAll htx (by rw [hstart]; simpa using hcount) hmem
      rwa [hstart] at hlt
    have htaken := hgenuine buffer hbuffer plaintext hmem hnew
    rw [receiveStep_sealed hrx] at htaken
    cases htaken
  · intro hnone
    refine ⟨?_, ?_, ?_, ?_⟩
    · rw [run_receiveStep_sealed hrx]
      exact List.nil_sublist _
    · rw [run_receiveStep_sealed hrx]
      exact List.nodup_nil
    · rw [eachStep_receiveStep_sealed hrx]
      intro buffer _ _
      rw [receiveStep_sealed hrx]
    · rw [eachStep_receiveStep_sealed hrx]
      exact fun buffer hbuffer plaintext hmem => absurd hmem (hnone buffer hbuffer plaintext)

/-- A context with encryption on and the all-zero key, before its first frame. -/
def plainContext : WsSecurityContext := { encryptionEnabled := true }

/-- AES-GCM of a session in which only the first frame, with an all-zero IV, was sealed. -/
def firstFrameGcm (plaintext ciphertext : Bytes) (h : ciphertext.length = plaintext.length) : Gcm :=
  Gcm.single plainContext.frameKey.toList (List.replicate 12 0) (sealedHeader 1) plaintext
    ciphertext (List.replicate 16 7) h rfl

/-- The frame of that session. -/
def firstFrame (ciphertext : Bytes) : Bytes :=
  sealedFrame 1 (List.replicate 12 0) ciphertext (List.replicate 16 7)

/-- The call that makes it. -/
def firstRequest : SealRequest :=
  { plaintext := [1, 2], iv := Vector.replicate 12 0, outSize := 64 }

/-- Altered and cut short, the frame of the session is rejected as it must be. -/
theorem session_accepts_in_order_altered :
    SessionLaw (firstFrameGcm [1, 2] [5, 6] rfl) plainContext
      (sealAll (firstFrameGcm [1, 2] [5, 6] rfl) plainContext [firstRequest])
      [firstFrame [5, 7], (firstFrame [5, 6]).dropLast] := by
  have hsealed : sealAll (firstFrameGcm [1, 2] [5, 6] rfl) plainContext [firstRequest] =
      [(firstFrame [5, 6], [1, 2])] := by decide
  refine (session_accepts_in_order_iff rfl rfl rfl [firstRequest] (by decide) _).mpr ?_
  intro buffer hbuffer plaintext hmem
  rw [hsealed, List.mem_singleton] at hmem
  obtain ⟨rfl, -⟩ := Prod.mk.inj hmem
  revert hbuffer
  decide

/-- AES-GCM opens under `key` only the IV, header, ciphertext and tag of a frame in the log. -/
def Gcm.Ideal (gcm : Gcm) (key : Vector UInt8 32) (log : List (Bytes × Bytes)) : Prop :=
  ∀ length iv header tag tagLen input plaintext,
    gcm.authDecrypt key.toList length iv header tag tagLen input = some plaintext →
      ∃ frame, (frame, plaintext) ∈ log ∧ frameIv frame = iv ∧ frameHeader frame = header ∧
        frameTag frame = tag ∧ input = .octets (frameCiphertext frame)

/-- The AES-GCM of that session is ideal. -/
theorem firstFrameGcm_ideal {plaintext ciphertext : Bytes}
    (h : ciphertext.length = plaintext.length) :
    (firstFrameGcm plaintext ciphertext h).Ideal plainContext.frameKey
      [(firstFrame ciphertext, plaintext)] := by
  intro length iv header tag tagLen input output hopened
  simp only [firstFrameGcm, Gcm.single] at hopened
  split_ifs at hopened with hsame
  obtain ⟨-, -, rfl, rfl, rfl, -, rfl⟩ := hsame
  cases hopened
  have hiv : (List.replicate 12 (0 : UInt8)).length = wsSecurityIvLen := rfl
  have htag : (List.replicate 16 (7 : UInt8)).length = wsSecurityTagLen := rfl
  refine ⟨firstFrame ciphertext, List.mem_singleton.mpr rfl, frameIv_sealedFrame hiv,
    frameHeader_sealedFrame, frameTag_sealedFrame hiv htag, ?_⟩
  rw [firstFrame, frameCiphertext_sealedFrame hiv htag]

/-- The one frame of a session under an ideal AES-GCM, offered as it was sealed, is rejected,
although AES-GCM opens it and its counter is ahead. -/
theorem genuine_frame_rejected :
    let gcm := firstFrameGcm [1, 2] [5, 6] rfl
    let frame := firstFrame [5, 6]
    sealAll gcm plainContext [firstRequest] = [(frame, [1, 2])] ∧
    gcm.Ideal plainContext.frameKey (sealAll gcm plainContext [firstRequest]) ∧
    gcm.authDecrypt plainContext.frameKey.toList (frameCiphertext frame).length (frameIv frame)
      (frameHeader frame) (frameTag frame) wsSecurityTagLen (.octets (frameCiphertext frame)) =
        some [1, 2] ∧
    frameCounter frame = 1 ∧
    wsSecurityDecrypt gcm plainContext frame 0 = (.error .invalidResponse, 0) ∧
    ¬ SessionLaw gcm plainContext (sealAll gcm plainContext [firstRequest]) [frame] := by
  intro gcm frame
  have hsealed : sealAll gcm plainContext [firstRequest] = [(frame, [1, 2])] := by decide
  have hencrypt : wsSecurityEncrypt gcm firstRequest.iv plainContext firstRequest.plaintext
      firstRequest.outSize = (.ok frame, { plainContext with txCounter := 1 }) := by decide
  refine ⟨hsealed, ?_, authDecrypt_of_encrypt rfl hencrypt, by decide, by decide, ?_⟩
  · rw [hsealed]
    exact @firstFrameGcm_ideal [1, 2] [5, 6] rfl
  · rintro ⟨-, -, -, hgenuine, -⟩
    have htaken := hgenuine [1, 2] (by rw [hsealed]; exact List.mem_singleton.mpr rfl) (by decide)
    rw [receiveStep_sealed rfl] at htaken
    cases htaken

end SensorHmi
