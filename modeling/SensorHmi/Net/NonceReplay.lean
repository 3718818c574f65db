import SensorHmi.Lib.Machine
import SensorHmi.Net.WsAuthorize

/-!
# Replays of a handshake nonce

The nonce cache of `authorize_request` over a whole run of requests. A nonce that was accepted is
refused as long as its entry lives, and an entry dies of age or because `nonce_store` finds no
other place for a new one. So nonces cannot be replayed within their lifetime as long as no
verified handshake comes while every entry is alive.
-/

namespace SensorHmi

open Octets

/-- The entry has not outlived its time yet. -/
def WsNonceEntry.live (ttlTicks now : TickType) (entry : WsNonceEntry) : Bool :=
  entry.valid && !(ttlTicks > 0 && now - entry.timestamp > ttlTicks)

/-- The entry as a lookup leaves it that does not stop before it. -/
def WsNonceEntry.aged (ttlTicks now : TickType) (entry : WsNonceEntry) : WsNonceEntry :=
  if entry.live ttlTicks now then entry else { entry with valid := false }

section Cache

variable {ttlTicks now : TickType} {nonce : Bytes} {cache : List WsNonceEntry}
  {entry : WsNonceEntry}

/-- Looking a nonce up invalidates no live entry. -/
theorem mem_nonceIsDuplicate (hmem : entry ∈ cache) (hlive : entry.live ttlTicks now = true) :
    entry ∈ (nonceIsDuplicate ttlTicks now nonce cache).2 := by
  simp only [WsNonceEntry.live, Bool.and_eq_true, Bool.not_eq_true'] at hlive
  induction cache with
  | nil => cases hmem
  | cons head rest ih =>
      simp only [nonceIsDuplicate]
      rcases List.mem_cons.mp hmem with rfl | hrest
      · -- a live entry passes both tests of the loop
        have hyoung : ¬ (ttlTicks > 0 ∧ now - entry.timestamp > ttlTicks) := by
          simpa using hlive.2
        rw [if_neg (by simp [hlive.1]), if_neg hyoung]
        split_ifs <;> exact List.mem_cons_self
      · have htail := ih hrest
        split_ifs
        · exact List.mem_cons_of_mem _ htail
        · exact List.mem_cons_of_mem _ htail
        · exact hmem
        · exact List.mem_cons_of_mem _ htail

/-- A nonce that is not found belongs to no live entry, and the lookup has invalidated every entry
that is not alive. -/
theorem nonceIsDuplicate_false (h : (nonceIsDuplicate ttlTicks now nonce cache).1 = false) :
    (nonceIsDuplicate ttlTicks now nonce cache).2 = cache.map (WsNonceEntry.aged ttlTicks now) ∧
      ∀ entry ∈ cache, entry.live ttlTicks now = true → entry.nonce ≠ nonce := by
  induction cache with
  | nil => exact ⟨rfl, fun entry hmem => absurd hmem List.not_mem_nil⟩
  | cons head rest ih =>
      simp only [nonceIsDuplicate] at h ⊢
      by_cases hvalid : head.valid = true
      swap
      · have hdead : head.live ttlTicks now = false := by simp [WsNonceEntry.live, hvalid]
        have hsame : head.aged ttlTicks now = head := by
          obtain ⟨valid, timestamp, nonce⟩ := head
          obtain rfl : valid = false := by simpa using hvalid
          simp [WsNonceEntry.aged, hdead]
        rw [if_pos (by simpa using hvalid)] at h ⊢
        obtain ⟨hmap, hnew⟩ := ih h
        refine ⟨by rw [List.map_cons, hsame, hmap], ?_⟩
        intro entry hmem hlive
        rcases List.mem_cons.mp hmem with rfl | hrest
        · rw [hdead] at hlive
          cases hlive
        · exact hnew entry hrest hlive
      rw [if_neg (by simp [hvalid])] at h ⊢
      by_cases hold : ttlTicks > 0 ∧ now - head.timestamp > ttlTicks
      · have hdead : head.live ttlTicks now = false := by
          simp [WsNonceEntry.live, hold.1, hold.2]
        rw [if_pos hold] at h ⊢
        obtain ⟨hmap, hnew⟩ := ih h
        refine ⟨by rw [List.map_cons, hmap, WsNonceEntry.aged, hdead]; rfl, ?_⟩
        intro entry hmem hlive
        rcases List.mem_cons.mp hmem with rfl | hrest
        · rw [hdead] at hlive
          cases hlive
        · exact hnew entry hrest hlive
      rw [if_neg hold] at h ⊢
      by_cases hsame : head.nonce = nonce
      · rw [if_pos hsame] at h
        cases h
      · have hyoung : (decide (ttlTicks > 0) && decide (now - head.timestamp > ttlTicks)) =
            false := by
          rw [← Bool.decide_and]
          exact decide_eq_false hold
        have halive : head.live ttlTicks now = true := by
          rw [WsNonceEntry.live, hvalid, hyoung]
          rfl
        rw [if_neg hsame] at h ⊢
        obtain ⟨hmap, hnew⟩ := ih h
        refine ⟨by rw [List.map_cons, hmap, WsNonceEntry.aged, halive]; rfl, ?_⟩
        intro entry hmem hlive
        rcases List.mem_cons.mp hmem with rfl | hrest
        · exact hsame
        · exact hnew entry hrest hlive

/-- The search for a slot takes a free entry if there is one. -/
theorem nonceSlot_free (hfree : ∃ free ∈ cache, free.valid = false) (i : Nat)
    (slot : Option Nat) (oldestAge : TickType) :
    ∃ j free, nonceSlot now cache i slot oldestAge = some (i + j) ∧ cache[j]? = some free ∧
      free.valid = false := by
  induction cache generalizing i slot oldestAge with
  | nil =>
      obtain ⟨free, hmem, -⟩ := hfree
      cases hmem
  | cons head rest ih =>
      simp only [nonceSlot]
      by_cases hhead : head.valid = true
      · have hrest : ∃ free ∈ rest, free.valid = false := by
          obtain ⟨free, hmem, hinvalid⟩ := hfree
          rcases List.mem_cons.mp hmem with rfl | hlater
          · rw [hhead] at hinvalid
            cases hinvalid
          · exact ⟨free, hlater, hinvalid⟩
        have hnext : ∀ slot oldestAge, ∃ j free,
            nonceSlot now rest (i + 1) slot oldestAge = some (i + j) ∧
              (head :: rest)[j]? = some free ∧ free.valid = false := by
          intro slot oldestAge
          obtain ⟨j, free, hslot, hget, hinvalid⟩ := ih hrest (i + 1) slot oldestAge
          exact ⟨j + 1, free, by rw [hslot, Nat.add_right_comm, Nat.add_assoc], hget, hinvalid⟩
        rw [if_neg (by simp [hhead])]
        split_ifs
        · exact hnext _ _
        · exact hnext _ _
      · rw [if_pos (by simpa using hhead)]
        exact ⟨0, head, rfl, rfl, by simpa using hhead⟩

/-- With a free entry in the cache a nonce is stored without touching a valid one. -/
theorem mem_nonceStore (hfree : ∃ free ∈ cache, free.valid = false) :
    { valid := true, timestamp := now, nonce := nonce } ∈ nonceStore nonce now cache ∧
      ∀ entry ∈ cache, entry.valid = true → entry ∈ nonceStore nonce now cache := by
  obtain ⟨j, free, hslot, hget, hinvalid⟩ := @nonceSlot_free now cache hfree 0 none 0
  have hstore : nonceStore nonce now cache =
      cache.set j { valid := true, timestamp := now, nonce := nonce } := by
    rw [nonceStore, hslot, Nat.zero_add]
    rfl
  rw [hstore]
  refine ⟨List.mem_set (List.getElem?_eq_some_iff.mp hget).1 _, ?_⟩
  intro entry hmem hvalid
  obtain ⟨k, hk⟩ := List.mem_iff_getElem?.mp hmem
  have hother : j ≠ k := by
    rintro rfl
    rw [hget] at hk
    cases hk
    rw [hinvalid] at hvalid
    cases hvalid
  exact List.mem_iff_getElem?.mpr ⟨k, by rw [List.getElem?_set_ne hother, hk]⟩

end Cache

/-- A request to the server: the ticks since the last one and the Unix time. -/
structure AuthorizeCall where
  elapsed : Nat
  unixTime : UInt64
  req : HttpdReq

/-- The clock, before it wraps to a tick count, and the nonce cache. -/
structure NonceGate where
  clock : Nat := 0
  cache : List WsNonceEntry

variable (mb : Mbedtls) (authToken : Bytes) (ctx : WsSecurityContext) (ttlTicks : TickType)

/-- What `authorize_request` reads at a clock. -/
def authorizeEnv (clock : Nat) (unixTime : UInt64) : AuthorizeEnv :=
  { authToken := authToken, ctx := ctx, nonceTtlTicks := ttlTicks, now := UInt32.ofNat clock
    unixTime := unixTime }

/-- One call of `authorize_request`, which puts out the nonce it accepts and when. -/
def authorizeStep (gate : NonceGate) (call : AuthorizeCall) :
    NonceGate × List (Bytes × Nat) :=
  let clock := gate.clock + call.elapsed
  let (authorized, cache) :=
    authorizeRequest mb (authorizeEnv authToken ctx ttlTicks clock call.unixTime) call.req
      gate.cache
  ({ clock := clock, cache := cache },
    if authorized then
      ((presentedHandshake mb call.req).map fun handshake => (handshake.1, clock)).toList
    else [])

/-- A verified handshake with a new nonce comes while every entry is alive. -/
def EvictsLive (gate : NonceGate) (call : AuthorizeCall) : Prop :=
  authorizeBearer authToken call.req = true ∧
    ∃ nonce signature, presentedHandshake mb call.req = some (nonce, signature) ∧
      wsSecurityVerifyHandshake mb ctx nonce authToken signature = .ok ∧
        ∀ entry ∈ gate.cache,
          entry.live ttlTicks (UInt32.ofNat (gate.clock + call.elapsed)) = true ∧
            entry.nonce ≠ nonce

/-- No nonce is accepted twice within the lifetime of an entry. -/
def NotReplayed (accepted : List (Bytes × Nat)) : Prop :=
  accepted.Pairwise fun first later => first.1 = later.1 → first.2 + ttlTicks.toNat < later.2

section Run

variable {mb authToken ctx ttlTicks} {gate : NonceGate} {call : AuthorizeCall}

/-- An entry lives at least as long as its lifetime says. -/
theorem live_of_young {accepted : Nat} {nonce : Bytes} {clock : Nat} (hpast : accepted ≤ clock)
    (hyoung : clock ≤ accepted + ttlTicks.toNat) :
    WsNonceEntry.live ttlTicks (UInt32.ofNat clock)
      { valid := true, timestamp := UInt32.ofNat accepted, nonce := nonce } = true := by
  have hage : UInt32.ofNat clock - UInt32.ofNat accepted ≤ ttlTicks := by
    have hlt : ttlTicks.toNat < UInt32.size := ttlTicks.toNat_lt
    rw [← UInt32.ofNat_sub hpast, UInt32.le_iff_toNat_le, UInt32.toNat_ofNat_of_lt' (by omega)]
    omega
  have hnotOld : decide (UInt32.ofNat clock - UInt32.ofNat accepted > ttlTicks) = false :=
    decide_eq_false (UInt32.not_lt.mpr hage)
  simp only [WsNonceEntry.live, hnotOld, Bool.and_false, Bool.not_false, Bool.and_true]

/-- The authorisation of a request that presents a handshake. -/
theorem authorizeHandshake_eq (henabled : ctx.handshakeEnabled = true) (clock : Nat)
    (unixTime : UInt64) (req : HttpdReq) (cache : List WsNonceEntry) :
    authorizeHandshake mb (authorizeEnv authToken ctx ttlTicks clock unixTime) req cache =
      match presentedHandshake mb req with
      | none => (false, cache)
      | some (nonce, signature) =>
          match nonceIsDuplicate ttlTicks (UInt32.ofNat clock) nonce cache with
          | (true, cache) => (false, cache)
          | (false, cache) =>
              if wsSecurityVerifyHandshake mb ctx nonce authToken signature = .ok then
                (true, nonceStore nonce (UInt32.ofNat clock) cache)
              else (false, cache) := by
  rw [authorizeHandshake, show (authorizeEnv authToken ctx ttlTicks clock unixTime).ctx = ctx
    from rfl, henabled]
  rfl

/-- What the handshake check does to the live entries: it keeps all of them, unless it evicts, and
accepts a nonce only if it belongs to none. -/
theorem authorizeHandshake_cases (henabled : ctx.handshakeEnabled = true) {clock : Nat}
    {unixTime : UInt64} {req : HttpdReq} {cache : List WsNonceEntry}
    (hroom : ¬ ∃ nonce signature, presentedHandshake mb req = some (nonce, signature) ∧
      wsSecurityVerifyHandshake mb ctx nonce authToken signature = .ok ∧
        ∀ entry ∈ cache, entry.live ttlTicks (UInt32.ofNat clock) = true ∧ entry.nonce ≠ nonce) :
    let result := authorizeHandshake mb (authorizeEnv authToken ctx ttlTicks clock unixTime)
      req cache
    (∀ entry ∈ cache, entry.live ttlTicks (UInt32.ofNat clock) = true → entry ∈ result.2) ∧
      (result.1 = true → ∃ nonce signature, presentedHandshake mb req = some (nonce, signature) ∧
        { valid := true, timestamp := UInt32.ofNat clock, nonce := nonce } ∈ result.2 ∧
          ∀ entry ∈ cache, entry.live ttlTicks (UInt32.ofNat clock) = true →
            entry.nonce ≠ nonce) := by
  intro result
  rw [show result = _ from authorizeHandshake_eq henabled clock unixTime req cache]
  cases hpresented : presentedHandshake mb req with
  | none => exact ⟨fun entry hmem _ => hmem, fun h => Bool.noConfusion h⟩
  | some handshake =>
      obtain ⟨nonce, signature⟩ := handshake
      have hkeeps : ∀ entry ∈ cache, entry.live ttlTicks (UInt32.ofNat clock) = true →
          entry ∈ (nonceIsDuplicate ttlTicks (UInt32.ofNat clock) nonce cache).2 :=
        fun entry hmem hlive => mem_nonceIsDuplicate hmem hlive
      cases hlookup : nonceIsDuplicate ttlTicks (UInt32.ofNat clock) nonce cache with
      | mk duplicate left =>
          rw [hlookup] at hkeeps
          simp only [hlookup]
          cases duplicate with
          | true => exact ⟨hkeeps, fun h => Bool.noConfusion h⟩
          | false =>
              obtain ⟨hleft, hnew⟩ := @nonceIsDuplicate_false ttlTicks (UInt32.ofNat clock) nonce
                cache (by rw [hlookup])
              rw [hlookup] at hleft
              by_cases hverify :
                  wsSecurityVerifyHandshake mb ctx nonce authToken signature = .ok
              swap
              · simp only [if_neg hverify]
                exact ⟨hkeeps, fun h => Bool.noConfusion h⟩
              -- an entry that is not alive is free after the lookup
              have hfree : ∃ free ∈ left, free.valid = false := by
                by_contra hfull
                refine hroom ⟨nonce, signature, hpresented, hverify, fun entry hmem => ?_⟩
                have hlive : entry.live ttlTicks (UInt32.ofNat clock) = true := by
                  by_contra hdead
                  refine hfull ⟨entry.aged ttlTicks (UInt32.ofNat clock), ?_, ?_⟩
                  · rw [show left = _ from hleft]
                    exact List.mem_map_of_mem hmem
                  · rw [WsNonceEntry.aged, if_neg hdead]
                exact ⟨hlive, hnew entry hmem hlive⟩
              obtain ⟨hstored, hothers⟩ :=
                @mem_nonceStore (UInt32.ofNat clock) nonce left hfree
              simp only [if_pos hverify]
              refine ⟨fun entry hmem hlive => hothers entry (hkeeps entry hmem hlive) ?_,
                fun _ => ⟨nonce, signature, rfl, hstored, hnew⟩⟩
              exact (Bool.and_eq_true_iff.mp hlive).1

/-- What a call does with the handshake enabled, unless it evicts. -/
theorem authorizeStep_cases (henabled : ctx.handshakeEnabled = true)
    (hroom : ¬ EvictsLive mb authToken ctx ttlTicks gate call) :
    let next := authorizeStep mb authToken ctx ttlTicks gate call
    let clock := gate.clock + call.elapsed
    next.1.clock = clock ∧
      (∀ entry ∈ gate.cache, entry.live ttlTicks (UInt32.ofNat clock) = true →
        entry ∈ next.1.cache) ∧
      (next.2 = [] ∨ ∃ nonce, next.2 = [(nonce, clock)] ∧
        { valid := true, timestamp := UInt32.ofNat clock, nonce := nonce } ∈ next.1.cache ∧
          ∀ entry ∈ gate.cache, entry.live ttlTicks (UInt32.ofNat clock) = true →
            entry.nonce ≠ nonce) := by
  intro next clock
  refine ⟨rfl, ?_⟩
  have hnext : next.2 = if (authorizeRequest mb
      (authorizeEnv authToken ctx ttlTicks clock call.unixTime) call.req gate.cache).1 then
        ((presentedHandshake mb call.req).map fun handshake => (handshake.1, clock)).toList
      else [] := rfl
  have hcache : next.1.cache = (authorizeRequest mb
      (authorizeEnv authToken ctx ttlTicks clock call.unixTime) call.req gate.cache).2 := rfl
  rw [hnext, hcache, authorizeRequest]
  by_cases hbearer : authorizeBearer authToken call.req = true
  swap
  · rw [if_pos (by simpa [authorizeEnv] using hbearer)]
    exact ⟨fun entry hmem _ => hmem, Or.inl rfl⟩
  rw [if_neg (by simp [authorizeEnv, hbearer])]
  have hhandshake := @authorizeHandshake_cases mb authToken ctx ttlTicks henabled clock
    call.unixTime call.req gate.cache fun hevicts => hroom ⟨hbearer, hevicts⟩
  revert hhandshake
  cases authorizeHandshake mb (authorizeEnv authToken ctx ttlTicks clock call.unixTime) call.req
    gate.cache with
  | mk passed left =>
      rintro ⟨hkeeps, haccepts⟩
      refine ⟨?_, ?_⟩
      · cases passed <;> exact hkeeps
      · cases passed with
        | false => exact Or.inl rfl
        | true =>
            obtain ⟨nonce, signature, hpresented, hstored, hnew⟩ := haccepts rfl
            simp only [hpresented]
            cases authorizeTotp mb (authorizeEnv authToken ctx ttlTicks clock call.unixTime)
              call.req with
            | false => exact Or.inl rfl
            | true => exact Or.inr ⟨nonce, rfl, hstored, hnew⟩

/-- What is known after a run: every nonce accepted within the lifetime of an entry has its entry
in the cache. -/
structure Remembered (ttlTicks : TickType) (gate : NonceGate) (accepted : List (Bytes × Nat)) :
    Prop where
  notReplayed : NotReplayed ttlTicks accepted
  past : ∀ entry ∈ accepted, entry.2 ≤ gate.clock
  cached : ∀ entry ∈ accepted, gate.clock ≤ entry.2 + ttlTicks.toNat →
    { valid := true, timestamp := UInt32.ofNat entry.2, nonce := entry.1 } ∈ gate.cache

/-- A call that does not evict keeps the memory. -/
theorem authorizeStep_remembered (henabled : ctx.handshakeEnabled = true)
    {accepted : List (Bytes × Nat)} (h : Remembered ttlTicks gate accepted)
    (hroom : ¬ EvictsLive mb authToken ctx ttlTicks gate call) :
    Remembered ttlTicks (authorizeStep mb authToken ctx ttlTicks gate call).1
      (accepted ++ (authorizeStep mb authToken ctx ttlTicks gate call).2) := by
  obtain ⟨hclock, hkeeps, hcases⟩ :=
    @authorizeStep_cases mb authToken ctx ttlTicks gate call henabled hroom
  have hforward : gate.clock ≤ gate.clock + call.elapsed := Nat.le_add_right _ _
  have hkept : ∀ entry ∈ accepted,
      gate.clock + call.elapsed ≤ entry.2 + ttlTicks.toNat →
        { valid := true, timestamp := UInt32.ofNat entry.2, nonce := entry.1 } ∈ gate.cache ∧
          WsNonceEntry.live ttlTicks (UInt32.ofNat (gate.clock + call.elapsed))
            { valid := true, timestamp := UInt32.ofNat entry.2, nonce := entry.1 } = true := by
    intro entry hmem hyoung
    exact ⟨h.cached entry hmem (hforward.trans hyoung),
      live_of_young ((h.past entry hmem).trans hforward) hyoung⟩
  rcases hcases with hnothing | ⟨nonce, haccepted, hstored, hnew⟩
  · rw [hnothing, List.append_nil]
    refine ⟨h.notReplayed, ?_, ?_⟩
    · intro entry hmem
      rw [hclock]
      exact (h.past entry hmem).trans hforward
    · intro entry hmem hyoung
      rw [hclock] at hyoung
      obtain ⟨hcached, hlive⟩ := hkept entry hmem hyoung
      exact hkeeps _ hcached hlive
  · rw [haccepted]
    refine ⟨?_, ?_, ?_⟩
    · refine List.pairwise_append.mpr ⟨h.notReplayed, List.pairwise_singleton _ _, ?_⟩
      intro first hfirst later hlater hsame
      obtain rfl := List.mem_singleton.mp hlater
      -- an earlier acceptance within the lifetime would have left a live entry
      by_contra hyoung
      obtain ⟨hcached, hlive⟩ := hkept first hfirst (Nat.le_of_not_lt hyoung)
      exact hnew _ hcached hlive hsame
    · intro entry hmem
      rw [hclock]
      rcases List.mem_append.mp hmem with hold | hlast
      · exact (h.past entry hold).trans hforward
      · obtain rfl := List.mem_singleton.mp hlast
        exact Nat.le_refl _
    · intro entry hmem hyoung
      rw [hclock] at hyoung
      rcases List.mem_append.mp hmem with hold | hlast
      · obtain ⟨hcached, hlive⟩ := hkept entry hold hyoung
        exact hkeeps _ hcached hlive
      · obtain rfl := List.mem_singleton.mp hlast
        exact hstored

end Run

/-- In every run of requests to a server with the handshake enabled, whatever the size of its
nonce cache, no nonce is accepted twice within the lifetime of an entry, as long as no verified
handshake with a new nonce comes while every entry is alive. -/
theorem nonces_not_replayed (henabled : ctx.handshakeEnabled = true) (size : Nat)
    {calls : List AuthorizeCall}
    (hroom : Machine.EachStep (authorizeStep mb authToken ctx ttlTicks)
      (fun gate call => ¬ EvictsLive mb authToken ctx ttlTicks gate call)
      { cache := List.replicate size {} } calls) :
    NotReplayed ttlTicks
      (Machine.run (authorizeStep mb authToken ctx ttlTicks) { cache := List.replicate size {} }
        calls).2 := by
  have hstart : Remembered ttlTicks { cache := List.replicate size {} } [] :=
    ⟨List.Pairwise.nil, fun entry hmem => absurd hmem List.not_mem_nil,
      fun entry hmem => absurd hmem List.not_mem_nil⟩
  have hrun := Machine.run_history
    (fun gate call accepted h hstep => authorizeStep_remembered henabled h hstep) hstart hroom
  exact hrun.notReplayed

/-- The signature of a nonce of octets `0xA0`. -/
def signatureA : Vector UInt8 32 :=
  #v[109, 133, 170, 227, 251, 189, 239, 106, 211, 31, 85, 113, 89, 77, 46, 84, 141, 97, 81, 254,
    167, 31, 78, 41, 183, 34, 208, 195, 229, 99, 133, 61]

/-- The signature of a nonce of octets `0xB0`. -/
def signatureB : Vector UInt8 32 :=
  #v[17, 109, 115, 75, 103, 34, 152, 11, 81, 130, 218, 139, 175, 137, 229, 217, 181, 148, 46, 237,
    6, 255, 79, 210, 225, 6, 169, 211, 82, 109, 175, 103]

/-- The context both signatures are made in. -/
def signatureContext : WsSecurityContext :=
  { handshakeEnabled := true
    handshakeKey := #v[69, 32, 73, 52, 120, 1, 173, 190, 10, 38, 45, 176, 211, 231, 76,
      214, 52, 112,
      99, 234, 129, 245, 197, 114, 79, 80, 190, 77, 9, 199, 246, 157] }

/-- The mbedTLS that knows these two signatures and their texts. -/
def signatureMbedtls : Mbedtls :=
  { Mbedtls.zero .empty with
    hmacSha256 := fun _ message =>
      some (if message = List.replicate 16 0xA0 then signatureA else signatureB)
    base64Decode := fun text =>
      some (if text = ascii "bYWq4/u972rTH1VxWU0uVI1hUf6nH04ptyLQw+VjhT0=" then signatureA.toList
        else signatureB.toList) }

/-- The requests of two clients. -/
def requestA : HttpdReq :=
  { headers := [(ascii "X-WS-Nonce", ascii "a0a0a0a0a0a0a0a0a0a0a0a0a0a0a0a0"),
      (ascii "X-WS-Signature", ascii "bYWq4/u972rTH1VxWU0uVI1hUf6nH04ptyLQw+VjhT0=")] }

def requestB : HttpdReq :=
  { headers := [(ascii "X-WS-Nonce", ascii "b0b0b0b0b0b0b0b0b0b0b0b0b0b0b0b0"),
      (ascii "X-WS-Signature", ascii "EW1zS2cimAtRgtqLr4nl2bWULu0G/0/S4Qap01Jtr2c=")] }

theorem nonces_not_replayed_room_for_two :
    NotReplayed 30000 (Machine.run (authorizeStep signatureMbedtls [] signatureContext 30000)
      { cache := List.replicate 2 {} }
        [⟨0, 0, requestA⟩, ⟨1, 0, requestB⟩, ⟨1, 0, requestA⟩]).2 := by
  refine nonces_not_replayed signatureMbedtls [] signatureContext 30000 rfl 2 ?_
  refine ⟨?_, ?_, ?_, trivial⟩
  · rintro ⟨-, nonce, signature, -, -, hall⟩
    exact Bool.noConfusion (hall {} List.mem_cons_self).1
  · rintro ⟨-, nonce, signature, -, -, hall⟩
    exact Bool.noConfusion (hall {} (List.mem_cons_of_mem _ List.mem_cons_self)).1
  · -- the nonce that comes again is known
    rintro ⟨-, nonce, signature, hpresented, -, hall⟩
    obtain ⟨rfl, -⟩ : List.replicate 16 0xA0 = nonce ∧ _ :=
      Prod.mk.inj (Option.some.inj (show some _ = _ from hpresented))
    exact (hall _ List.mem_cons_self).2 rfl

/-- With a cache of one entry, a request that was accepted is accepted again after another client
connected. -/
theorem nonce_accepted_again_after_eviction :
    ¬ NotReplayed 30000 (Machine.run (authorizeStep signatureMbedtls [] signatureContext 30000)
      { cache := List.replicate 1 {} }
        [⟨0, 0, requestA⟩, ⟨1, 0, requestB⟩, ⟨1, 0, requestA⟩]).2 := by
  have haccepted : (Machine.run (authorizeStep signatureMbedtls [] signatureContext 30000)
      { cache := List.replicate 1 {} }
        [⟨0, 0, requestA⟩, ⟨1, 0, requestB⟩, ⟨1, 0, requestA⟩]).2 =
      [(List.replicate 16 0xA0, 0), (List.replicate 16 0xB0, 1), (List.replicate 16 0xA0, 2)] := by
    decide
  rw [haccepted]
  intro hnot
  have hlate := List.rel_of_pairwise_cons hnot
    (show (List.replicate 16 (0xA0 : UInt8), 2) ∈ _ from List.mem_cons_of_mem _ List.mem_cons_self)
    rfl
  exact absurd hlate (by decide)

end SensorHmi
