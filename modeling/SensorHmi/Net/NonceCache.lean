import SensorHmi.Lib.Machine
import SensorHmi.Lib.Recent
import SensorHmi.Net.NonceReplay

/-!
# The nonce cache as a set of recent nonces

What `nonce_is_duplicate` answers over a whole run of handshake attempts. Behind the array with its
lazy expiry stands the recent part of the nonces accepted so far: the lookup answers membership in
it, and `nonce_store` takes the slot of an unexpired entry only for want of another, and then that
of the oldest.
-/

namespace SensorHmi

open Recent

/-- A handshake attempt: the tick, before it wraps, at which the nonce is looked up, the Unix time
and the request. -/
structure HandshakeAttempt where
  tick : Nat
  unixTime : UInt64
  req : HttpdReq

/-- The entry of a nonce accepted at a tick. -/
def nonceEntry (accepted : Bytes × Nat) : WsNonceEntry :=
  { valid := true, timestamp := UInt32.ofNat accepted.2, nonce := accepted.1 }

/-- The nonce was accepted at most a lifetime ago. -/
def unexpired (ttlTicks : TickType) (now : Nat) (accepted : Bytes × Nat) : Bool :=
  now - accepted.2 ≤ ttlTicks.toNat

/-- The nonce that the handshake check of `authorize_request` accepts. -/
def acceptedNonce (mb : Mbedtls) (env : AuthorizeEnv) (req : HttpdReq)
    (cache : List WsNonceEntry) : Option Bytes :=
  if authorizeBearer env.authToken req && env.ctx.handshakeEnabled &&
      (authorizeHandshake mb env req cache).1 then
    (presentedHandshake mb req).map Prod.fst
  else none

/-- The entry that `nonce_store` writes over. -/
def nonceVictim (now : TickType) (cache : List WsNonceEntry) : Option WsNonceEntry :=
  cache[(nonceSlot now cache 0 none 0).getD 0]?

/-- One handshake attempt, which puts out the nonce it accepts and when. -/
def attemptStep (mb : Mbedtls) (authToken : Bytes) (ctx : WsSecurityContext) (ttlTicks : TickType)
    (cache : List WsNonceEntry) (attempt : HandshakeAttempt) :
    List WsNonceEntry × List (Bytes × Nat) :=
  let env := authorizeEnv authToken ctx ttlTicks attempt.tick attempt.unixTime
  ((authorizeRequest mb env attempt.req cache).2,
    ((acceptedNonce mb env attempt.req cache).map fun nonce => (nonce, attempt.tick)).toList)

section Lookup

variable {ttlTicks now : TickType} {nonce : Bytes} {cache : List WsNonceEntry}

/-- A lookup finds the nonces of the live entries. -/
theorem nonceIsDuplicate_iff :
    (nonceIsDuplicate ttlTicks now nonce cache).1 = true ↔
      ∃ entry ∈ cache, entry.live ttlTicks now = true ∧ entry.nonce = nonce := by
  constructor
  · intro hfound
    induction cache with
    | nil => cases hfound
    | cons head rest ih =>
        have hlater : (nonceIsDuplicate ttlTicks now nonce rest).1 = true →
            ∃ entry ∈ head :: rest, entry.live ttlTicks now = true ∧ entry.nonce = nonce := by
          intro hrest
          obtain ⟨entry, hmem, hentry⟩ := ih hrest
          exact ⟨entry, List.mem_cons_of_mem _ hmem, hentry⟩
        simp only [nonceIsDuplicate] at hfound
        split_ifs at hfound with hinvalid hold hsame
        · exact hlater hfound
        · exact hlater hfound
        · have hvalid : head.valid = true := by simpa using hinvalid
          refine ⟨head, List.mem_cons_self, ?_, hsame⟩
          rw [WsNonceEntry.live, hvalid, ← Bool.decide_and, decide_eq_false hold]
          rfl
        · exact hlater hfound
  · rintro ⟨entry, hmem, hlive, hsame⟩
    by_contra hmissed
    exact (nonceIsDuplicate_false (Bool.eq_false_iff.mpr hmissed)).2 entry hmem hlive hsame

/-- A lookup keeps the live entries in their order. -/
theorem filter_nonceIsDuplicate :
    (nonceIsDuplicate ttlTicks now nonce cache).2.filter (WsNonceEntry.live ttlTicks now) =
      cache.filter (WsNonceEntry.live ttlTicks now) := by
  induction cache with
  | nil => rfl
  | cons head rest ih =>
      simp only [nonceIsDuplicate]
      split_ifs with hinvalid hold hsame
      · rw [List.filter_cons, List.filter_cons, ih]
      · -- the entry invalidated here was not alive before either
        have hdead : head.live ttlTicks now = false := by simp [WsNonceEntry.live, hold.1, hold.2]
        rw [List.filter_cons, List.filter_cons, hdead, ih]
        rfl
      · rfl
      · rw [List.filter_cons, List.filter_cons, ih]

/-- A lookup makes no entry valid. -/
theorem valid_of_nonceIsDuplicate {entry : WsNonceEntry}
    (hmem : entry ∈ (nonceIsDuplicate ttlTicks now nonce cache).2) (hvalid : entry.valid = true) :
    entry ∈ cache := by
  induction cache with
  | nil => exact hmem
  | cons head rest ih =>
      simp only [nonceIsDuplicate] at hmem
      split_ifs at hmem
      · exact (List.mem_cons.mp hmem).elim (fun h => h ▸ List.mem_cons_self)
          fun h => List.mem_cons_of_mem _ (ih h)
      · rcases List.mem_cons.mp hmem with rfl | hrest
        · cases hvalid
        · exact List.mem_cons_of_mem _ (ih hrest)
      · exact hmem
      · exact (List.mem_cons.mp hmem).elim (fun h => h ▸ List.mem_cons_self)
          fun h => List.mem_cons_of_mem _ (ih h)

/-- After a lookup that fails, the valid entries are the live ones. -/
theorem live_of_valid {entry : WsNonceEntry}
    (hnew : (nonceIsDuplicate ttlTicks now nonce cache).1 = false)
    (hmem : entry ∈ (nonceIsDuplicate ttlTicks now nonce cache).2) (hvalid : entry.valid = true) :
    entry.live ttlTicks now = true := by
  rw [(nonceIsDuplicate_false hnew).1] at hmem
  obtain ⟨old, -, rfl⟩ := List.mem_map.mp hmem
  unfold WsNonceEntry.aged at hvalid ⊢
  split_ifs at hvalid ⊢ with hlive
  exact hlive

end Lookup

section Slot

variable {now : TickType} {cache : List WsNonceEntry}

/-- Among valid entries the search ends at one that is older than the best so far and as old as any,
or stays with the best so far. -/
theorem nonceSlot_valid (hvalid : ∀ entry ∈ cache, entry.valid = true) (i slot : Nat)
    (oldestAge : TickType) :
    (nonceSlot now cache i (some slot) oldestAge = some slot ∧
      ∀ entry ∈ cache, now - entry.timestamp ≤ oldestAge) ∨
    ∃ j oldest, nonceSlot now cache i (some slot) oldestAge = some (i + j) ∧
      cache[j]? = some oldest ∧ oldestAge < now - oldest.timestamp ∧
        ∀ entry ∈ cache, now - entry.timestamp ≤ now - oldest.timestamp := by
  induction cache generalizing i slot oldestAge with
  | nil => exact Or.inl ⟨rfl, fun entry hmem => absurd hmem List.not_mem_nil⟩
  | cons head rest ih =>
      have hrest : ∀ entry ∈ rest, entry.valid = true :=
        fun entry hmem => hvalid entry (List.mem_cons_of_mem _ hmem)
      have hhead : head.valid = true := hvalid head List.mem_cons_self
      rw [nonceSlot, if_neg (by simp [hhead])]
      by_cases holder : oldestAge < now - head.timestamp
      · rw [if_pos (Or.inr holder)]
        right
        rcases ih hrest (i + 1) i (now - head.timestamp) with ⟨hslot, hall⟩ |
          ⟨j, oldest, hslot, hget, hgt, hall⟩
        · refine ⟨0, head, hslot, rfl, holder, ?_⟩
          exact List.forall_mem_cons.mpr ⟨UInt32.le_refl _, hall⟩
        · refine ⟨j + 1, oldest, ?_, hget, UInt32.lt_trans holder hgt, ?_⟩
          · rw [hslot, Nat.add_right_comm, Nat.add_assoc]
          · exact List.forall_mem_cons.mpr ⟨UInt32.le_of_lt hgt, hall⟩
      · rw [if_neg (by simpa using holder)]
        have hyoung : now - head.timestamp ≤ oldestAge := UInt32.not_lt.mp holder
        rcases ih hrest (i + 1) slot oldestAge with ⟨hslot, hall⟩ |
          ⟨j, oldest, hslot, hget, hgt, hall⟩
        · exact Or.inl ⟨hslot, List.forall_mem_cons.mpr ⟨hyoung, hall⟩⟩
        · refine Or.inr ⟨j + 1, oldest, ?_, hget, hgt, ?_⟩
          · rw [hslot, Nat.add_right_comm, Nat.add_assoc]
          · exact List.forall_mem_cons.mpr
              ⟨UInt32.le_trans hyoung (UInt32.le_of_lt hgt), hall⟩

/-- Without a free entry the search takes one that is as old as any. -/
theorem nonceSlot_full (hvalid : ∀ entry ∈ cache, entry.valid = true) (hne : cache ≠ []) :
    ∃ j oldest, nonceSlot now cache 0 none 0 = some j ∧ cache[j]? = some oldest ∧
      ∀ entry ∈ cache, now - entry.timestamp ≤ now - oldest.timestamp := by
  obtain ⟨head, rest, rfl⟩ := List.exists_cons_of_ne_nil hne
  obtain ⟨hhead, hrest⟩ := List.forall_mem_cons.mp hvalid
  rw [nonceSlot, if_neg (by simp [hhead]),
    if_pos (Or.inl (show (none : Option Nat).isNone = true from rfl))]
  rcases @nonceSlot_valid now rest hrest (0 + 1) 0 (now - head.timestamp) with ⟨hslot, hall⟩ |
    ⟨j, oldest, hslot, hget, hgt, hall⟩
  · exact ⟨0, head, hslot, rfl, List.forall_mem_cons.mpr ⟨UInt32.le_refl _, hall⟩⟩
  · refine ⟨1 + j, oldest, hslot, by rw [Nat.add_comm]; exact hget, ?_⟩
    exact List.forall_mem_cons.mpr ⟨UInt32.le_of_lt hgt, hall⟩

/-- Storing a nonce replaces the entry at the slot by its own. -/
theorem nonceStore_perm {nonce : Bytes} {j : Nat} {victim : WsNonceEntry}
    (hslot : nonceSlot now cache 0 none 0 = some j) (hget : cache[j]? = some victim) :
    (nonceStore nonce now cache).Perm
      ({ valid := true, timestamp := now, nonce := nonce } :: cache.eraseIdx j) := by
  rw [nonceStore, hslot]
  exact List.set_perm_cons_eraseIdx (List.getElem?_eq_some_iff.mp hget).1 _

end Slot

section History

variable {ttlTicks : TickType} {tick now later capacity : Nat} {accepted : List (Bytes × Nat)}
  {cache : List WsNonceEntry}

/-- The age of an entry is that of its nonce, within the span of the tick counter. -/
theorem age_nonceEntry {nonce : Bytes × Nat} (hpast : nonce.2 ≤ now)
    (hspan : now < nonce.2 + 2 ^ 32) :
    (UInt32.ofNat now - (nonceEntry nonce).timestamp).toNat = now - nonce.2 := by
  rw [nonceEntry, ← UInt32.ofNat_sub hpast,
    UInt32.toNat_ofNat_of_lt' (by simp only [UInt32.size]; omega)]

/-- The entry of an accepted nonce is alive as long as the nonce is unexpired, within the span of
the tick counter. -/
theorem live_nonceEntry {nonce : Bytes × Nat} (httl : 0 < ttlTicks) (hpast : nonce.2 ≤ now)
    (hspan : now < nonce.2 + 2 ^ 32) :
    (nonceEntry nonce).live ttlTicks (UInt32.ofNat now) = unexpired ttlTicks now nonce := by
  have hage : (UInt32.ofNat now - UInt32.ofNat nonce.2).toNat = now - nonce.2 :=
    age_nonceEntry hpast hspan
  rw [Bool.eq_iff_iff]
  simp only [WsNonceEntry.live, nonceEntry, unexpired, httl, gt_iff_lt, decide_true, Bool.true_and,
    Bool.not_eq_true', decide_eq_false_iff_not, decide_eq_true_eq, UInt32.not_lt,
    UInt32.le_iff_toNat_le, hage]

/-- The live entries of the cache are those of the recent nonces. -/
structure HoldsRecent (ttlTicks : TickType) (capacity now : Nat) (cache : List WsNonceEntry)
    (accepted : List (Bytes × Nat)) : Prop where
  length : cache.length = capacity
  ordered : accepted.Pairwise fun newer older => older.2 < newer.2
  inSpan : ∀ nonce ∈ accepted, nonce.2 ≤ now ∧ now < nonce.2 + 2 ^ 32
  known : ∀ entry ∈ cache, entry.valid = true → ∃ nonce ∈ accepted, entry = nonceEntry nonce
  live : (cache.filter (WsNonceEntry.live ttlTicks (UInt32.ofNat now))).Perm
    ((recent capacity (unexpired ttlTicks now) accepted).map nonceEntry)

/-- A fresh cache holds the nonces accepted so far: none. -/
theorem holdsRecent_fresh : HoldsRecent ttlTicks capacity now (List.replicate capacity {}) [] := by
  have hnone : (List.replicate capacity ({} : WsNonceEntry)).filter
      (WsNonceEntry.live ttlTicks (UInt32.ofNat now)) = [] := by
    refine List.filter_eq_nil_iff.mpr fun entry hmem => ?_
    rw [List.eq_of_mem_replicate hmem]
    exact Bool.false_ne_true
  refine ⟨List.length_replicate, List.Pairwise.nil, ?_, ?_, ?_⟩
  · intro nonce hmem
    cases hmem
  · intro entry hmem hvalid
    rw [List.eq_of_mem_replicate hmem] at hvalid
    cases hvalid
  · rw [hnone]
    simp [recent]

/-- Time alone does not separate the cache from the recent nonces. -/
theorem HoldsRecent.advance (httl : 0 < ttlTicks)
    (h : HoldsRecent ttlTicks capacity now cache accepted) (hforward : now ≤ later)
    (hspan : ∀ nonce ∈ accepted, later < nonce.2 + 2 ^ 32) :
    HoldsRecent ttlTicks capacity later cache accepted := by
  have hnow : ∀ nonce ∈ accepted, (nonceEntry nonce).live ttlTicks (UInt32.ofNat now) =
      unexpired ttlTicks now nonce :=
    fun nonce hmem => live_nonceEntry httl (h.inSpan nonce hmem).1 (h.inSpan nonce hmem).2
  have hlater : ∀ nonce ∈ accepted, (nonceEntry nonce).live ttlTicks (UInt32.ofNat later) =
      unexpired ttlTicks later nonce :=
    fun nonce hmem => live_nonceEntry httl ((h.inSpan nonce hmem).1.trans hforward)
      (hspan nonce hmem)
  have hstrict : ∀ nonce ∈ accepted, unexpired ttlTicks later nonce = true →
      unexpired ttlTicks now nonce = true := by
    intro nonce hmem hyoung
    simp only [unexpired, decide_eq_true_eq] at hyoung ⊢
    omega
  have horder : accepted.Pairwise fun newer older =>
      unexpired ttlTicks later older = true → unexpired ttlTicks later newer = true := by
    refine h.ordered.imp fun {newer older} hlt hyoung => ?_
    simp only [unexpired, decide_eq_true_eq] at hyoung ⊢
    omega
  refine ⟨h.length, h.ordered, ?_, h.known, ?_⟩
  · exact fun nonce hmem => ⟨(h.inSpan nonce hmem).1.trans hforward, hspan nonce hmem⟩
  -- both sides lose the same entries
  have hcache : (cache.filter (WsNonceEntry.live ttlTicks (UInt32.ofNat now))).filter
      (WsNonceEntry.live ttlTicks (UInt32.ofNat later)) =
        cache.filter (WsNonceEntry.live ttlTicks (UInt32.ofNat later)) := by
    rw [List.filter_filter]
    refine List.filter_congr fun entry hmem => ?_
    by_cases hvalid : entry.valid = true
    · obtain ⟨nonce, hnonce, rfl⟩ := h.known entry hmem hvalid
      rw [hnow nonce hnonce, hlater nonce hnonce, Bool.and_eq_left_iff_imp]
      exact hstrict nonce hnonce
    · simp [WsNonceEntry.live, hvalid]
  have hrecent : ((recent capacity (unexpired ttlTicks now) accepted).map nonceEntry).filter
      (WsNonceEntry.live ttlTicks (UInt32.ofNat later)) =
        (recent capacity (unexpired ttlTicks later) accepted).map nonceEntry := by
    rw [List.filter_map, ← filter_recent hstrict horder]
    refine congrArg (List.map nonceEntry) (List.filter_congr fun nonce hmem => ?_)
    exact hlater nonce (mem_of_mem_recent hmem).1
  rw [← hcache, ← hrecent]
  exact h.live.filter _

/-- A lookup keeps the recent nonces. -/
theorem HoldsRecent.lookup {nonce : Bytes} (h : HoldsRecent ttlTicks capacity now cache accepted) :
    HoldsRecent ttlTicks capacity now
      (nonceIsDuplicate ttlTicks (UInt32.ofNat now) nonce cache).2 accepted := by
  refine ⟨?_, h.ordered, h.inSpan, ?_, ?_⟩
  · rw [length_nonceIsDuplicate, h.length]
  · exact fun entry hmem hvalid => h.known entry (valid_of_nonceIsDuplicate hmem hvalid) hvalid
  · rw [filter_nonceIsDuplicate]
    exact h.live

/-- The lookup finds the recent nonces. -/
theorem HoldsRecent.duplicate_iff {nonce : Bytes}
    (h : HoldsRecent ttlTicks capacity now cache accepted) :
    (nonceIsDuplicate ttlTicks (UInt32.ofNat now) nonce cache).1 = true ↔
      nonce ∈ (recent capacity (unexpired ttlTicks now) accepted).map Prod.fst := by
  rw [nonceIsDuplicate_iff, List.mem_map]
  constructor
  · rintro ⟨entry, hmem, hlive, hsame⟩
    obtain ⟨recentNonce, hrecent, rfl⟩ :=
      List.mem_map.mp (h.live.mem_iff.mp (List.mem_filter.mpr ⟨hmem, hlive⟩))
    exact ⟨recentNonce, hrecent, hsame⟩
  · rintro ⟨recentNonce, hrecent, hsame⟩
    obtain ⟨hmem, hlive⟩ :=
      List.mem_filter.mp (h.live.mem_iff.mpr (List.mem_map_of_mem hrecent))
    exact ⟨nonceEntry recentNonce, hmem, hlive, hsame⟩

/-- With every entry alive, the slot for a new nonce is that of the oldest recent one. -/
theorem HoldsRecent.slot_of_full (hcapacity : 1 ≤ capacity)
    (h : HoldsRecent ttlTicks capacity now cache accepted)
    (hlive : ∀ entry ∈ cache, entry.live ttlTicks (UInt32.ofNat now) = true) :
    ∃ j oldest, nonceSlot (UInt32.ofNat now) cache 0 none 0 = some j ∧
      cache[j]? = some (nonceEntry oldest) ∧
      (recent capacity (unexpired ttlTicks now) accepted).getLast? = some oldest ∧
      (cache.eraseIdx j).Perm
        ((recent (capacity - 1) (unexpired ttlTicks now) accepted).map nonceEntry) := by
  have hperm : cache.Perm
      ((recent capacity (unexpired ttlTicks now) accepted).map nonceEntry) := by
    have hall := h.live
    rwa [List.filter_eq_self.mpr hlive] at hall
  have hlength : (recent capacity (unexpired ttlTicks now) accepted).length = capacity := by
    have hsame := hperm.length_eq
    rw [List.length_map, h.length] at hsame
    exact hsame.symm
  have hne : recent capacity (unexpired ttlTicks now) accepted ≠ [] :=
    List.ne_nil_of_length_pos (by omega)
  have hsplit := List.dropLast_concat_getLast hne
  generalize (recent capacity (unexpired ttlTicks now) accepted).getLast hne = oldest at hsplit
  have hcache : cache ≠ [] := List.ne_nil_of_length_pos (by rw [h.length]; exact hcapacity)
  have hvalid : ∀ entry ∈ cache, entry.valid = true :=
    fun entry hmem => (Bool.and_eq_true_iff.mp (hlive entry hmem)).1
  obtain ⟨j, victim, hslot, hget, holdest⟩ :=
    @nonceSlot_full (UInt32.ofNat now) cache hvalid hcache
  -- the entry at the slot is as old as that of the oldest nonce, and no other is
  have hrecentAge : ∀ nonce ∈ recent capacity (unexpired ttlTicks now) accepted,
      (UInt32.ofNat now - (nonceEntry nonce).timestamp).toNat = now - nonce.2 ∧
        nonce.2 ≤ now := by
    intro nonce hmem
    obtain ⟨hpast, hspan⟩ := h.inSpan nonce (mem_of_mem_recent hmem).1
    exact ⟨age_nonceEntry hpast hspan, hpast⟩
  have hvictim : victim = nonceEntry oldest := by
    obtain ⟨nonce, hmem, rfl⟩ :=
      List.mem_map.mp (hperm.mem_iff.mp (List.mem_of_getElem? hget))
    have hlast : oldest ∈ recent capacity (unexpired ttlTicks now) accepted := by
      rw [← hsplit]
      exact List.mem_append_right _ List.mem_cons_self
    have hage := UInt32.le_iff_toNat_le.mp
      (holdest (nonceEntry oldest) (hperm.mem_iff.mpr (List.mem_map_of_mem hlast)))
    rw [(hrecentAge nonce hmem).1, (hrecentAge oldest hlast).1] at hage
    have hpast := (hrecentAge nonce hmem).2
    have hordered :=
      h.ordered.sublist (@recent_sublist _ (unexpired ttlTicks now) accepted capacity)
    rw [← hsplit, List.pairwise_append] at hordered
    rw [← hsplit, List.mem_append, List.mem_singleton] at hmem
    rcases hmem with hnewer | rfl
    · have hlt := hordered.2.2 nonce hnewer oldest List.mem_cons_self
      omega
    · rfl
  rw [hvictim] at hget
  refine ⟨j, oldest, hslot, hget, ?_, ?_⟩
  · rw [← hsplit, List.getLast?_append_cons, List.getLast?_singleton]
  · obtain ⟨hlt, hentry⟩ := List.getElem?_eq_some_iff.mp hget
    have hboth := (List.getElem_cons_eraseIdx_perm hlt).trans hperm
    rw [hentry, ← hsplit, ← recent_pred_of_full hlength, List.map_append] at hboth
    exact (hboth.trans (List.perm_append_singleton _ _)).cons_inv

/-- With a free entry, the slot for a new nonce is free, and there is room for another recent
nonce. -/
theorem HoldsRecent.slot_of_free (h : HoldsRecent ttlTicks capacity now cache accepted)
    (hfree : ∃ free ∈ cache, free.valid = false) :
    ∃ j free, nonceSlot (UInt32.ofNat now) cache 0 none 0 = some j ∧ cache[j]? = some free ∧
      free.valid = false ∧
      ((cache.eraseIdx j).filter (WsNonceEntry.live ttlTicks (UInt32.ofNat now))).Perm
        ((recent (capacity - 1) (unexpired ttlTicks now) accepted).map nonceEntry) := by
  obtain ⟨j, free, hslot, hget, hinvalid⟩ :=
    @nonceSlot_free (UInt32.ofNat now) cache hfree 0 none 0
  rw [Nat.zero_add] at hslot
  refine ⟨j, free, hslot, hget, hinvalid, ?_⟩
  obtain ⟨hlt, hentry⟩ := List.getElem?_eq_some_iff.mp hget
  have hdead : free.live ttlTicks (UInt32.ofNat now) = false := by
    rw [WsNonceEntry.live, hinvalid, Bool.false_and]
  -- the free entry is not among the live ones
  have hrest : ((cache.eraseIdx j).filter
      (WsNonceEntry.live ttlTicks (UInt32.ofNat now))).Perm
        (cache.filter (WsNonceEntry.live ttlTicks (UInt32.ofNat now))) := by
    have hperm := (List.getElem_cons_eraseIdx_perm hlt).filter
      (WsNonceEntry.live ttlTicks (UInt32.ofNat now))
    rwa [hentry, List.filter_cons_of_neg (Bool.eq_false_iff.mp hdead)] at hperm
  have hroom : (recent capacity (unexpired ttlTicks now) accepted).length < capacity := by
    have hlive := (hrest.trans h.live).length_eq
    rw [List.length_map] at hlive
    have hfilter := List.length_filter_le (WsNonceEntry.live ttlTicks (UInt32.ofNat now))
      (cache.eraseIdx j)
    rw [List.length_eraseIdx_of_lt hlt] at hfilter
    have hlength := h.length
    omega
  rw [recent_pred_of_room hroom]
  exact hrest.trans h.live

/-- Storing a nonce after a lookup that failed adds it to the recent ones. -/
theorem HoldsRecent.store {nonce : Bytes} (httl : 0 < ttlTicks) (hcapacity : 1 ≤ capacity)
    (h : HoldsRecent ttlTicks capacity now cache accepted)
    (hearlier : ∀ earlier ∈ accepted, earlier.2 < now)
    (hlive : ∀ entry ∈ cache, entry.valid = true →
      entry.live ttlTicks (UInt32.ofNat now) = true) :
    HoldsRecent ttlTicks capacity now (nonceStore nonce (UInt32.ofNat now) cache)
      ((nonce, now) :: accepted) := by
  have hslot : ∃ j victim, nonceSlot (UInt32.ofNat now) cache 0 none 0 = some j ∧
      cache[j]? = some victim ∧
      ((cache.eraseIdx j).filter (WsNonceEntry.live ttlTicks (UInt32.ofNat now))).Perm
        ((recent (capacity - 1) (unexpired ttlTicks now) accepted).map nonceEntry) := by
    by_cases hfree : ∃ free ∈ cache, free.valid = false
    · obtain ⟨j, free, hslot, hget, -, hrest⟩ := h.slot_of_free hfree
      exact ⟨j, free, hslot, hget, hrest⟩
    · have hfull : ∀ entry ∈ cache, entry.live ttlTicks (UInt32.ofNat now) = true := by
        intro entry hmem
        refine hlive entry hmem ?_
        by_contra hinvalid
        exact hfree ⟨entry, hmem, Bool.eq_false_iff.mpr hinvalid⟩
      obtain ⟨j, oldest, hslot, hget, -, hrest⟩ := h.slot_of_full hcapacity hfull
      refine ⟨j, nonceEntry oldest, hslot, hget, ?_⟩
      rwa [List.filter_eq_self.mpr fun entry hmem => hfull entry (List.mem_of_mem_eraseIdx hmem)]
  obtain ⟨j, victim, hslot, hget, hrest⟩ := hslot
  have hstored : (nonceStore nonce (UInt32.ofNat now) cache).Perm
      (nonceEntry (nonce, now) :: cache.eraseIdx j) := nonceStore_perm hslot hget
  have hnew : unexpired ttlTicks now (nonce, now) = true := by simp [unexpired]
  have hnewLive : (nonceEntry (nonce, now)).live ttlTicks (UInt32.ofNat now) = true := by
    rw [live_nonceEntry httl (Nat.le_refl now) (by simp), hnew]
  refine ⟨?_, ?_, ?_, ?_, ?_⟩
  · rw [nonceStore, List.length_set, h.length]
  · exact List.pairwise_cons.mpr ⟨hearlier, h.ordered⟩
  · exact List.forall_mem_cons.mpr ⟨⟨Nat.le_refl now, by simp⟩, h.inSpan⟩
  · intro entry hmem hvalid
    rcases List.mem_cons.mp (hstored.mem_iff.mp hmem) with rfl | hkept
    · exact ⟨(nonce, now), List.mem_cons_self, rfl⟩
    · obtain ⟨known, hknown, hentry⟩ := h.known entry (List.mem_of_mem_eraseIdx hkept) hvalid
      exact ⟨known, List.mem_cons_of_mem _ hknown, hentry⟩
  · rw [recent_cons hnew hcapacity, List.map_cons]
    refine (hstored.filter _).trans ?_
    rw [List.filter_cons_of_pos hnewLive]
    exact hrest.cons _

end History

section Run

variable {mb : Mbedtls} {authToken : Bytes} {ctx : WsSecurityContext} {ttlTicks : TickType}
  {capacity : Nat} {cache : List WsNonceEntry} {accepted : List (Bytes × Nat)}
  {attempt : HandshakeAttempt} {attempts : List HandshakeAttempt}

/-- The handshake check keeps the recent nonces, with the one it accepts. -/
theorem HoldsRecent.handshake {env : AuthorizeEnv} {req : HttpdReq} {now : Nat}
    (hclock : env.now = UInt32.ofNat now) (httl : 0 < env.nonceTtlTicks) (hcapacity : 1 ≤ capacity)
    (h : HoldsRecent env.nonceTtlTicks capacity now cache accepted)
    (hearlier : ∀ earlier ∈ accepted, earlier.2 < now) :
    HoldsRecent env.nonceTtlTicks capacity now (authorizeHandshake mb env req cache).2
      ((if env.ctx.handshakeEnabled && (authorizeHandshake mb env req cache).1 then
        (presentedHandshake mb req).map fun handshake => (handshake.1, now)
      else none).toList ++ accepted) := by
  rw [authorizeHandshake]
  cases henabled : env.ctx.handshakeEnabled with
  | false => exact h
  | true =>
      cases hpresented : presentedHandshake mb req with
      | none => exact h
      | some handshake =>
          obtain ⟨nonce, signature⟩ := handshake
          have hlookup := @HoldsRecent.lookup env.nonceTtlTicks now capacity accepted cache nonce h
          have hvalid := @live_of_valid env.nonceTtlTicks env.now nonce cache
          rw [hclock] at hvalid ⊢
          cases hresult : nonceIsDuplicate env.nonceTtlTicks (UInt32.ofNat now) nonce cache with
          | mk duplicate left =>
              rw [hresult] at hlookup hvalid
              cases duplicate with
              | true => simpa [hresult] using hlookup
              | false =>
                  by_cases hverify :
                      wsSecurityVerifyHandshake mb env.ctx nonce env.authToken signature = .ok
                  · have hstored := @HoldsRecent.store env.nonceTtlTicks now capacity accepted left
                      nonce httl hcapacity hlookup hearlier fun entry hmem => hvalid rfl hmem
                    simpa [hresult, hverify] using hstored
                  · simpa [hresult, hverify] using hlookup

/-- An attempt keeps the recent nonces, with the one it accepts. -/
theorem HoldsRecent.step (httl : 0 < ttlTicks) (hcapacity : 1 ≤ capacity)
    (h : HoldsRecent ttlTicks capacity attempt.tick cache accepted)
    (hearlier : ∀ earlier ∈ accepted, earlier.2 < attempt.tick) :
    HoldsRecent ttlTicks capacity attempt.tick
      (attemptStep mb authToken ctx ttlTicks cache attempt).1
      ((attemptStep mb authToken ctx ttlTicks cache attempt).2 ++ accepted) := by
  simp only [attemptStep, authorizeRequest, acceptedNonce]
  by_cases hbearer : authorizeBearer authToken attempt.req = true
  · have hhandshake := @HoldsRecent.handshake mb capacity cache accepted
      (authorizeEnv authToken ctx ttlTicks attempt.tick attempt.unixTime) attempt.req attempt.tick
      rfl httl hcapacity h hearlier
    revert hhandshake
    cases authorizeHandshake mb (authorizeEnv authToken ctx ttlTicks attempt.tick attempt.unixTime)
      attempt.req cache with
    | mk passed left =>
        intro hhandshake
        cases passed <;> simpa [authorizeEnv, hbearer, apply_ite, Function.comp_def]
          using hhandshake
  · simpa [authorizeEnv, hbearer] using h

/-- Every nonce accepted in a run was accepted at the tick of an attempt. -/
theorem tick_of_accepted {nonce : Bytes × Nat}
    (h : nonce ∈ (Machine.run (attemptStep mb authToken ctx ttlTicks) cache attempts).2) :
    ∃ attempt ∈ attempts, nonce.2 = attempt.tick := by
  obtain ⟨before, attempt, after, rfl, hmem⟩ := Machine.mem_outputs h
  refine ⟨attempt, List.mem_append_right _ List.mem_cons_self, ?_⟩
  obtain ⟨accepted, -, rfl⟩ := Option.map_eq_some_iff.mp (Option.mem_toList.mp hmem)
  rfl

/-- An attempt accepts one nonce at most. -/
theorem reverse_attemptStep :
    (attemptStep mb authToken ctx ttlTicks cache attempt).2.reverse =
      (attemptStep mb authToken ctx ttlTicks cache attempt).2 := by
  rw [attemptStep]
  cases acceptedNonce mb (authorizeEnv authToken ctx ttlTicks attempt.tick attempt.unixTime)
    attempt.req cache <;> rfl

/-- At any time after a run, within the span of the tick counter, the cache holds the recent
nonces. -/
theorem run_holdsRecent (httl : 0 < ttlTicks) (hcapacity : 1 ≤ capacity)
    (hticks : attempts.Pairwise fun first second => first.tick < second.tick) {now : Nat}
    (hspan : ∀ attempt ∈ attempts, attempt.tick ≤ now ∧ now < attempt.tick + 2 ^ 32) :
    HoldsRecent ttlTicks capacity now
      (Machine.run (attemptStep mb authToken ctx ttlTicks) (List.replicate capacity {}) attempts).1
      (Machine.run (attemptStep mb authToken ctx ttlTicks) (List.replicate capacity {})
        attempts).2.reverse := by
  induction attempts using List.reverseRecOn generalizing now with
  | nil => exact holdsRecent_fresh
  | append_singleton before last ih =>
      obtain ⟨hbefore, -, hlast⟩ := List.pairwise_append.mp hticks
      have hnow := hspan last (List.mem_append_right _ List.mem_cons_self)
      have hearlier : ∀ attempt ∈ before, attempt.tick < last.tick :=
        fun attempt hmem => hlast attempt hmem last List.mem_cons_self
      have hholds := ih hbefore fun attempt hmem =>
        ⟨(hearlier attempt hmem).le,
          hnow.1.trans_lt (hspan attempt (List.mem_append_left _ hmem)).2⟩
      have hstep := @HoldsRecent.step mb authToken ctx ttlTicks capacity _ _ last httl hcapacity
        hholds fun nonce hmem => by
          obtain ⟨attempt, hattempt, htick⟩ := tick_of_accepted (List.mem_reverse.mp hmem)
          rw [htick]
          exact hearlier attempt hattempt
      have haccepted : ∀ nonce ∈ (Machine.run (attemptStep mb authToken ctx ttlTicks)
          (List.replicate capacity {}) (before ++ [last])).2.reverse,
            now < nonce.2 + 2 ^ 32 := by
        intro nonce hmem
        obtain ⟨attempt, hattempt, htick⟩ := tick_of_accepted (List.mem_reverse.mp hmem)
        rw [htick]
        exact (hspan attempt hattempt).2
      simp only [Machine.run_append, Machine.run_cons, Machine.run_nil, List.append_nil,
        List.reverse_append, reverse_attemptStep] at haccepted ⊢
      exact hstep.advance httl hnow.1 haccepted

end Run

/-- What `nonce_is_duplicate` answers and what `nonce_store` then writes over, at every attempt of
every run. The ticks of the attempts increase and span less than the tick counter, entries have a
lifetime, and the cache has a capacity. A nonce is found exactly if it is among the most recently
accepted ones, as many as the capacity at most, that are unexpired. A store writes over an
unexpired entry only if all of them are unexpired, and then over that of the oldest recent nonce. -/
theorem nonce_cache_recent (mb : Mbedtls) (authToken : Bytes) (ctx : WsSecurityContext)
    {ttlTicks : TickType} {capacity : Nat} (httl : 0 < ttlTicks) (hcapacity : 1 ≤ capacity)
    {attempts : List HandshakeAttempt} {attempt : HandshakeAttempt}
    (hticks : (attempts ++ [attempt]).Pairwise fun first second => first.tick < second.tick)
    (hspan : ∀ first ∈ attempts, attempt.tick < first.tick + 2 ^ 32) (nonce : Bytes) :
    let (cache, accepted) :=
      Machine.run (attemptStep mb authToken ctx ttlTicks) (List.replicate capacity {}) attempts
    let recentNonces := recent capacity (unexpired ttlTicks attempt.tick) accepted.reverse
    let (duplicate, left) := nonceIsDuplicate ttlTicks (UInt32.ofNat attempt.tick) nonce cache
    (duplicate = true ↔ nonce ∈ recentNonces.map Prod.fst) ∧
      (duplicate = false → ∀ victim, nonceVictim (UInt32.ofNat attempt.tick) left = some victim →
        victim.live ttlTicks (UInt32.ofNat attempt.tick) = true →
          (∀ entry ∈ left, entry.live ttlTicks (UInt32.ofNat attempt.tick) = true) ∧
            ∃ oldest, recentNonces.getLast? = some oldest ∧ victim = nonceEntry oldest) := by
  obtain ⟨hbefore, -, hlast⟩ := List.pairwise_append.mp hticks
  have hholds := @run_holdsRecent mb authToken ctx ttlTicks capacity attempts httl hcapacity hbefore
    attempt.tick fun first hmem =>
      ⟨(hlast first hmem attempt List.mem_cons_self).le, hspan first hmem⟩
  revert hholds
  cases Machine.run (attemptStep mb authToken ctx ttlTicks) (List.replicate capacity {})
    attempts with
  | mk cache accepted =>
      intro hholds
      dsimp only
      have hlookup := @HoldsRecent.lookup ttlTicks attempt.tick capacity _ cache nonce hholds
      have hvalid := @live_of_valid ttlTicks (UInt32.ofNat attempt.tick) nonce cache
      have hduplicate := @HoldsRecent.duplicate_iff ttlTicks attempt.tick capacity _ cache nonce
        hholds
      revert hlookup hvalid hduplicate
      cases nonceIsDuplicate ttlTicks (UInt32.ofNat attempt.tick) nonce cache with
      | mk duplicate left =>
          intro hlookup hvalid hduplicate
          refine ⟨hduplicate, ?_⟩
          intro hnew victim hvictim hlive
          by_cases hfree : ∃ free ∈ left, free.valid = false
          · -- a free entry is not alive
            obtain ⟨j, free, hslot, hget, hinvalid, -⟩ := hlookup.slot_of_free hfree
            rw [nonceVictim, hslot, Option.getD_some, hget] at hvictim
            cases hvictim
            rw [WsNonceEntry.live, hinvalid, Bool.false_and] at hlive
            cases hlive
          · have hall : ∀ entry ∈ left,
                entry.live ttlTicks (UInt32.ofNat attempt.tick) = true := by
              intro entry hmem
              refine hvalid hnew hmem ?_
              by_contra hinvalid
              exact hfree ⟨entry, hmem, Bool.eq_false_iff.mpr hinvalid⟩
            obtain ⟨j, oldest, hslot, hget, holdest, -⟩ := hlookup.slot_of_full hcapacity hall
            rw [nonceVictim, hslot, Option.getD_some, hget] at hvictim
            cases hvictim
            exact ⟨hall, oldest, holdest, rfl⟩

/-- Two clients connect around the wrap of the tick counter; the nonce of the first is then
known. -/
theorem nonce_cache_recent_two :
    (nonceIsDuplicate 30000 (UInt32.ofNat 4294967297) (List.replicate 16 0xA0)
      (Machine.run (attemptStep signatureMbedtls [] signatureContext 30000) (List.replicate 2 {})
        [⟨4294967295, 0, requestA⟩, ⟨4294967296, 0, requestB⟩]).1).1 = true ↔
      List.replicate 16 0xA0 ∈ (recent 2 (unexpired 30000 4294967297)
        (Machine.run (attemptStep signatureMbedtls [] signatureContext 30000) (List.replicate 2 {})
          [⟨4294967295, 0, requestA⟩, ⟨4294967296, 0, requestB⟩]).2.reverse).map Prod.fst := by
  have hticks : ([⟨4294967295, 0, requestA⟩, ⟨4294967296, 0, requestB⟩] ++
      [⟨4294967297, 0, requestA⟩] : List HandshakeAttempt).Pairwise
        fun first second => first.tick < second.tick := by
    decide
  have hspan : ∀ first ∈ ([⟨4294967295, 0, requestA⟩, ⟨4294967296, 0, requestB⟩] :
      List HandshakeAttempt), 4294967297 < first.tick + 2 ^ 32 := by
    simp
  exact (nonce_cache_recent signatureMbedtls [] signatureContext (by decide) (by decide)
    hticks hspan
    (List.replicate 16 0xA0)).1

end SensorHmi
