import SensorHmi.Lib.Walks
import SensorHmi.Proto.Codec

/-!
# What the CBOR decoders ask of a payload

The decoders of `common/proto/messages.c` say of a payload only what it has to look like under the
keys they know: `commandFields` and `sensorUpdateFields` are these demands as data, and `Conforms`
is what they mean for the parser's iterators. Every step leaves its iterator in place or nearer to
the end of the payload, so a decoder goes on for ever exactly where it comes to an entry that it
can neither read nor skip, inside a container whose errors it ignores: `Sticks`. `decode_settles`
says that the decoders accept what conforms and end on what does not stick.
-/

namespace SensorHmi

open Octets Cbor Loop

/-- What a decoder asks of the value under a key, before it goes on to the next one. -/
inductive Shape
  /-- Anything; the value is skipped. -/
  | any
  /-- An unsigned integer. -/
  | uint
  | boolean
  /-- A text is read into a buffer of `size` octets, and then a value is skipped. -/
  | text (size : Nat)
  /-- A container of keys and values. A key is read into `size` octets, which has to succeed if
  `checked`. If `more`, the value behind the container is skipped. -/
  | entries (checked : Bool) (size : Nat) (fields : Bytes → Shape) (more : Bool)
  /-- A container, of which at most `most` elements are read. -/
  | elements (most : Nat) (element : Shape) (more : Bool)

section Fields

/-- The fields of `write_gpio`. -/
def writeGpioFields (key : Bytes) : Shape :=
  if key = ascii "dev" then .text 7
  else if key = ascii "port" then .text 1
  else .any

/-- The fields of a command. -/
def commandFields (key : Bytes) : Shape :=
  if key = ascii "ts" then .uint
  else if key = ascii "seq" then .uint
  else if key = ascii "set_pwm" then .entries true 7 (fun _ => .any) true
  else if key = ascii "pwm_freq" then .entries false 7 (fun _ => .any) true
  else if key = ascii "write_gpio" then .entries false 11 writeGpioFields true
  else .any

/-- The fields of an element of `sht20`. -/
def sht20Fields (key : Bytes) : Shape :=
  if key = ascii "id" then .text 15
  else if key = ascii "ok" then .boolean
  else .any

/-- The fields of an element of `ds18b20`. -/
def ds18b20Fields (key : Bytes) : Shape :=
  if key = ascii "rom" then .text 16 else .any

/-- The fields of `gpio`. -/
def gpioFields (key : Bytes) : Shape :=
  match sscanfMcp key with
  | some idx => if idx < 2 then .entries false 1 (fun _ => .any) false else .any
  | none => .any

/-- The fields of `pca9685`. -/
def pcaFields (key : Bytes) : Shape :=
  if key = ascii "freq" then .any
  else if key = ascii "duty" then .elements 16 .any false
  else .any

/-- The fields of `pwm`. -/
def pwmFields (key : Bytes) : Shape :=
  if key = ascii "pca9685" then .entries false 7 pcaFields false else .any

/-- The fields of telemetry. -/
def sensorUpdateFields (key : Bytes) : Shape :=
  if key = ascii "ts" then .uint
  else if key = ascii "seq" then .uint
  else if key = ascii "sht20" then .elements 2 (.entries true 7 sht20Fields false) true
  else if key = ascii "ds18b20" then .elements 4 (.entries true 7 ds18b20Fields false) true
  else if key = ascii "gpio" then .entries false 5 gpioFields true
  else if key = ascii "pwm" then .entries false 11 pwmFields true
  else .any

end Fields

section Conforms

variable {ι : Type} (cbor : Tinycbor ι)

/-- The key in front of an iterator, and its value. -/
def ReadsKey (checked : Bool) (size : Nat) (it : ι) (key : Bytes) (value : ι) : Prop :=
  if checked then copyChecked cbor it size = .ok (key, value)
  else copyIgnoring cbor it size = (key, value)

/-- Where the decoders go on after a container they entered. -/
def afterContainer (more : Bool) (outer inner : ι) : ι :=
  if more then advanceIgnoring cbor (leaveIgnoring cbor outer inner)
  else leaveIgnoring cbor outer inner

/-- The value in front of `it` has the shape, and the decoder goes on at `next`. -/
def Conforms : Shape → (it next : ι) → Prop
  | .any, it, next => next = advanceIgnoring cbor it
  | .uint, it, next => (cbor.getUint64 it).isSome = true ∧ next = advanceIgnoring cbor it
  | .boolean, it, next => (cbor.getBoolean it).isSome = true ∧ next = advanceIgnoring cbor it
  | .text size, it, next => next = advanceIgnoring cbor (copyIgnoring cbor it size).2
  | .entries checked size fields more, it, next => ∃ inner last,
      cbor.enterContainer it = some inner ∧
      Walk (fun it => !cbor.atEnd it)
        (fun it next => ∃ key value, ReadsKey cbor checked size it key value ∧
          Conforms (fields key) value next) inner last ∧
      next = afterContainer cbor more it last
  | .elements most element more, it, next => ∃ inner last,
      cbor.enterContainer it = some inner ∧
      WalkUpTo (fun it => !cbor.atEnd it) (Conforms element) most inner last ∧
      next = afterContainer cbor more it last

/-- The keys and values from an iterator on, up to the end of their container. -/
def EntriesConform (checked : Bool) (size : Nat) (fields : Bytes → Shape) : ι → ι → Prop :=
  Walk (fun it => !cbor.atEnd it) fun it next => ∃ key value,
    ReadsKey cbor checked size it key value ∧ Conforms cbor (fields key) value next

/-- An entry, from its key to the next one. -/
def EntryConforms (checked : Bool) (size : Nat) (fields : Bytes → Shape) (it next : ι) : Prop :=
  ∃ key value, ReadsKey cbor checked size it key value ∧ Conforms cbor (fields key) value next

/-- The payload is a map whose entries conform. -/
def PayloadConforms (fields : Bytes → Shape) (payload : Bytes) : Prop :=
  ∃ root map last, cbor.parserInit payload = some root ∧ cbor.isMap root = true ∧
    cbor.enterContainer root = some map ∧ EntriesConform cbor true 15 fields map last

/-- The value in front of an iterator has the shape, but cannot be skipped. -/
def Unskippable : Shape → ι → Prop
  | .any, it => cbor.advance it = none
  | .uint, it => (cbor.getUint64 it).isSome = true ∧ cbor.advance it = none
  | .boolean, it => (cbor.getBoolean it).isSome = true ∧ cbor.advance it = none
  | .text size, it =>
      (∃ left, cbor.copyTextString it size = .error left) ∧ cbor.advance it = none
  | .entries checked size fields more, it => ∃ inner last, cbor.enterContainer it = some inner ∧
      EntriesConform cbor checked size fields inner last ∧
      cbor.leaveContainer it last = none ∧ (more = true → cbor.advance it = none)
  | .elements most element more, it => ∃ inner last, cbor.enterContainer it = some inner ∧
      WalkUpTo (fun it => !cbor.atEnd it) (Conforms cbor element) most inner last ∧
      cbor.leaveContainer it last = none ∧ (more = true → cbor.advance it = none)

/-- The key in front of an iterator is no text that can be read, and what is taken for its value
cannot be skipped. -/
def StandsStill (size : Nat) (fields : Bytes → Shape) (it : ι) : Prop :=
  ∃ left, cbor.copyTextString it size = .error left ∧ Unskippable cbor (fields (cString left)) it

/-- The value in front of an iterator leads into a container of entries whose keys are not checked,
and there over entries that conform to one where the decoder stands still. -/
def Sticks : Shape → ι → Prop
  | .any, _ | .uint, _ | .boolean, _ | .text _, _ => False
  | .entries checked size fields _, it => ∃ inner head, cbor.enterContainer it = some inner ∧
      Relation.ReflTransGen (fun it next => cbor.atEnd it = false ∧
        EntryConforms cbor checked size fields it next) inner head ∧
      cbor.atEnd head = false ∧
      (checked = false ∧ StandsStill cbor size fields head ∨
        ∃ key value, ReadsKey cbor checked size head key value ∧ Sticks (fields key) value)
  | .elements most element _, it => ∃ inner, cbor.enterContainer it = some inner ∧
      TrappedUpTo (fun it => !cbor.atEnd it) (Conforms cbor element) (Sticks element) most inner

/-- The payload is a map that sticks. -/
def PayloadSticks (fields : Bytes → Shape) (payload : Bytes) : Prop :=
  ∃ root, cbor.parserInit payload = some root ∧ cbor.isMap root = true ∧
    Sticks cbor (.entries true 15 fields false) root

end Conforms

section Ahead

variable {ι : Type} (cbor : Tinycbor ι)

/-- The iterator is where it was, or nearer to the end of the payload. -/
def Tinycbor.Ahead (it next : ι) : Prop :=
  next = it ∨ cbor.left next < cbor.left it

variable {cbor} {it middle next inner last : ι}

theorem Tinycbor.Ahead.le (h : cbor.Ahead it next) : cbor.left next ≤ cbor.left it := by
  rcases h with rfl | hless
  · exact le_rfl
  · exact hless.le

theorem Tinycbor.Ahead.trans (hfirst : cbor.Ahead it middle) (hsecond : cbor.Ahead middle next) :
    cbor.Ahead it next := by
  rcases hfirst with rfl | hless
  · exact hsecond
  · exact .inr (hsecond.le.trans_lt hless)

/-- What is nearer to the end does not come back. -/
theorem Tinycbor.Ahead.ne (hless : cbor.left middle < cbor.left it) (h : cbor.Ahead middle next) :
    next ≠ it := by
  rintro rfl
  exact absurd h.le (not_le.mpr hless)

theorem advanceIgnoring_ahead (it : ι) : cbor.Ahead it (advanceIgnoring cbor it) := by
  rw [advanceIgnoring]
  cases hadvance : cbor.advance it with
  | none => exact .inl rfl
  | some next => exact .inr (cbor.left_advance hadvance)

theorem copyIgnoring_ahead (it : ι) (size : Nat) :
    cbor.Ahead it (copyIgnoring cbor it size).2 := by
  rw [copyIgnoring]
  cases hcopy : cbor.copyTextString it size with
  | error left => exact .inl rfl
  | ok copied => exact .inr (cbor.left_copy hcopy)

/-- A key that is read is passed; one that is not is no text, and its value is taken in its
place. -/
theorem readsKey_cases {checked : Bool} {size : Nat} {key : Bytes} {value : ι}
    (h : ReadsKey cbor checked size it key value) :
    cbor.left value < cbor.left it ∨
      checked = false ∧ value = it ∧
        ∃ left, cbor.copyTextString it size = .error left ∧ key = cString left := by
  cases hcopy : cbor.copyTextString it size with
  | ok copied =>
      left
      have hless := cbor.left_copy hcopy
      cases checked <;> simp [ReadsKey, copyChecked, copyIgnoring, hcopy] at h
      · exact h.2 ▸ hless
      · exact h.2 ▸ hless
  | error left =>
      right
      cases checked <;> simp [ReadsKey, copyChecked, copyIgnoring, hcopy] at h
      exact ⟨rfl, h.2.symm, left, rfl, h.1.symm⟩

theorem readsKey_ahead {checked : Bool} {size : Nat} {key : Bytes} {value : ι}
    (h : ReadsKey cbor checked size it key value) : cbor.Ahead it value := by
  rcases readsKey_cases h with hless | ⟨-, hsame, -⟩
  · exact .inr hless
  · exact .inl hsame

/-- A container is left nearer to the end, or not at all. -/
theorem afterContainer_ahead {more : Bool} (henter : cbor.enterContainer it = some inner)
    (hinside : cbor.Ahead inner last) : cbor.Ahead it (afterContainer cbor more it last) := by
  have hleave : cbor.Ahead it (leaveIgnoring cbor it last) := by
    rw [leaveIgnoring]
    cases hleave : cbor.leaveContainer it last with
    | none => exact .inl rfl
    | some next =>
        exact .inr (((cbor.left_leave hleave).trans hinside.le).trans_lt (cbor.left_enter henter))
  unfold afterContainer
  split_ifs
  · exact hleave.trans (advanceIgnoring_ahead _)
  · exact hleave

theorem walk_ahead {test : ι → Bool} {move : ι → ι → Prop}
    (hmove : ∀ {it next}, move it next → cbor.Ahead it next) (h : Walk test move it next) :
    cbor.Ahead it next := by
  induction h with
  | exit => exact .inl rfl
  | next _ hstep _ ih => exact (hmove hstep).trans ih

theorem walkUpTo_ahead {test : ι → Bool} {move : ι → ι → Prop} {most : Nat}
    (hmove : ∀ {it next}, move it next → cbor.Ahead it next) (h : WalkUpTo test move most it next) :
    cbor.Ahead it next := by
  induction h with
  | bound => exact .inl rfl
  | exit => exact .inl rfl
  | next _ hstep _ ih => exact (hmove hstep).trans ih

/-- Behind a value that conforms the decoder is where it was, or nearer to the end. -/
theorem conforms_ahead {shape : Shape} (h : Conforms cbor shape it next) : cbor.Ahead it next := by
  induction shape generalizing it next with
  | any =>
      rw [show next = advanceIgnoring cbor it from h]
      exact advanceIgnoring_ahead it
  | uint | boolean =>
      rw [h.2]
      exact advanceIgnoring_ahead it
  | text size =>
      rw [show next = advanceIgnoring cbor (copyIgnoring cbor it size).2 from h]
      exact (copyIgnoring_ahead it size).trans (advanceIgnoring_ahead _)
  | entries checked size fields more ih =>
      obtain ⟨inner, last, henter, hwalk, rfl⟩ := h
      refine afterContainer_ahead henter (walk_ahead ?_ hwalk)
      rintro it next ⟨key, value, hkey, hvalue⟩
      exact (readsKey_ahead hkey).trans (ih key hvalue)
  | elements most element more ih =>
      obtain ⟨inner, last, henter, hwalk, rfl⟩ := h
      exact afterContainer_ahead henter (walkUpTo_ahead ih hwalk)

/-- A value is skipped, or the decoder stays in front of it. -/
theorem advanceIgnoring_eq_self : it = advanceIgnoring cbor it ↔ cbor.advance it = none := by
  rw [advanceIgnoring]
  cases hadvance : cbor.advance it with
  | none => simp
  | some next =>
      refine iff_of_false (fun hsame => ?_) (by simp)
      exact (Tinycbor.Ahead.ne (cbor.left_advance hadvance) (.inl rfl)) hsame.symm

theorem afterContainer_eq_self {more : Bool} (henter : cbor.enterContainer it = some inner)
    (hinside : cbor.Ahead inner last) :
    it = afterContainer cbor more it last ↔
      cbor.leaveContainer it last = none ∧ (more = true → cbor.advance it = none) := by
  unfold afterContainer leaveIgnoring
  cases hleave : cbor.leaveContainer it last with
  | none => cases more <;> simp [advanceIgnoring_eq_self]
  | some next =>
      have hless : cbor.left next < cbor.left it :=
        ((cbor.left_leave hleave).trans hinside.le).trans_lt (cbor.left_enter henter)
      refine iff_of_false (fun hsame => ?_) (by simp)
      cases more with
      | false => exact (Tinycbor.Ahead.ne hless (.inl rfl)) hsame.symm
      | true => exact (Tinycbor.Ahead.ne hless (advanceIgnoring_ahead next)) hsame.symm

/-- The decoder stays in front of a value of the shape exactly when it cannot be skipped. -/
theorem unskippable_iff {shape : Shape} :
    Unskippable cbor shape it ↔ Conforms cbor shape it it := by
  cases shape with
  | any => exact advanceIgnoring_eq_self.symm
  | uint => exact and_congr_right fun _ => advanceIgnoring_eq_self.symm
  | boolean => exact and_congr_right fun _ => advanceIgnoring_eq_self.symm
  | text size =>
      show _ ↔ it = advanceIgnoring cbor (copyIgnoring cbor it size).2
      rw [Unskippable, copyIgnoring]
      cases hcopy : cbor.copyTextString it size with
      | error left => simp [advanceIgnoring_eq_self]
      | ok copied =>
          have hne := Tinycbor.Ahead.ne (cbor.left_copy hcopy) (advanceIgnoring_ahead copied.2)
          simpa using hne.symm
  | entries checked size fields more =>
      refine exists_congr fun inner => exists_congr fun last =>
        and_congr_right fun henter => and_congr_right fun hwalk => ?_
      refine (afterContainer_eq_self henter (walk_ahead ?_ hwalk)).symm
      rintro it next ⟨key, value, hkey, hvalue⟩
      exact (readsKey_ahead hkey).trans (conforms_ahead hvalue)
  | elements most element more =>
      refine exists_congr fun inner => exists_congr fun last =>
        and_congr_right fun henter => and_congr_right fun hwalk => ?_
      exact (afterContainer_eq_self henter (walkUpTo_ahead conforms_ahead hwalk)).symm

theorem entryConforms_ahead {checked : Bool} {size : Nat} {fields : Bytes → Shape}
    (h : EntryConforms cbor checked size fields it next) : cbor.Ahead it next := by
  obtain ⟨key, value, hkey, hvalue⟩ := h
  exact (readsKey_ahead hkey).trans (conforms_ahead hvalue)

/-- An entry leads back to itself exactly where the decoder stands still. -/
theorem entryConforms_self {checked : Bool} {size : Nat} {fields : Bytes → Shape} :
    EntryConforms cbor checked size fields it it ↔
      checked = false ∧ StandsStill cbor size fields it := by
  constructor
  · rintro ⟨key, value, hkey, hvalue⟩
    rcases readsKey_cases hkey with hless | ⟨hignored, rfl, left, hcopy, rfl⟩
    · exact absurd rfl ((conforms_ahead hvalue).ne hless)
    · exact ⟨hignored, left, hcopy, unskippable_iff.mpr hvalue⟩
  · rintro ⟨rfl, left, hcopy, hvalue⟩
    refine ⟨cString left, it, ?_, unskippable_iff.mp hvalue⟩
    simp [ReadsKey, copyIgnoring, hcopy]

/-- The entries of a container are trapped exactly where it sticks. -/
theorem sticks_entries_iff {checked more : Bool} {size : Nat} {fields : Bytes → Shape} :
    Sticks cbor (.entries checked size fields more) it ↔
      ∃ inner, cbor.enterContainer it = some inner ∧
        Trapped (fun it => !cbor.atEnd it) (EntryConforms cbor checked size fields)
          (fun it => ∃ key value, ReadsKey cbor checked size it key value ∧
            Sticks cbor (fields key) value) inner := by
  simp only [Sticks, Trapped, Bool.not_eq_true', entryConforms_self, exists_and_left]

end Ahead

section Follows

variable {ι τ : Type} {cbor : Tinycbor ι}

/-- A decoder of a value goes on behind one that conforms, and for ever in one that sticks. -/
def Follows (cbor : Tinycbor ι) (shape : Shape) (it : ι) (program : Nat → Run ι (ι × (τ → τ))) :
    Prop :=
  Settles Prod.fst program (Conforms cbor shape it) (Sticks cbor shape it)

/-- A decoder of entries goes from key to key as its fields say. -/
def FollowsFields (cbor : Tinycbor ι) (checked : Bool) (size : Nat) (fields : Bytes → Shape)
    (body : Nat → ι → Run ι (ι × (τ → τ))) : Prop :=
  ∀ it, Settles Prod.fst (fun fuel => body fuel it) (EntryConforms cbor checked size fields it)
    (∃ key value, ReadsKey cbor checked size it key value ∧ Sticks cbor (fields key) value)

/-- An entry whose key has to be read. -/
theorem followsFields_checked {size : Nat} {fields : Bytes → Shape}
    {rest : Nat → Bytes × ι → Run ι (ι × (τ → τ))}
    (h : ∀ key value, Follows cbor (fields key) value fun fuel => rest fuel (key, value)) :
    FollowsFields cbor true size fields fun fuel it => copyChecked cbor it size >>= rest fuel := by
  intro it
  have hends : Ends (copyChecked cbor it size) := by
    intro now hstalled
    rw [copyChecked] at hstalled
    split at hstalled <;> cases hstalled
  have hafter := Settles.after hends fun read _ => h read.1 read.2
  refine hafter.congr (fun next => ?_) ?_
  · simp only [EntryConforms, ReadsKey, if_true, Prod.exists]
  · simp only [ReadsKey, if_true, Prod.exists]

/-- An entry whose key is taken as it is read. -/
theorem followsFields_ignoring {size : Nat} {fields : Bytes → Shape}
    {body : Nat → ι → Run ι (ι × (τ → τ))}
    (h : ∀ it key value, copyIgnoring cbor it size = (key, value) →
      Follows cbor (fields key) value fun fuel => body fuel it) :
    FollowsFields cbor false size fields body := by
  intro it
  cases hread : copyIgnoring cbor it size with
  | mk key value =>
      refine Settles.congr (h it key value hread) (fun next => ?_) ?_
      · simp [EntryConforms, ReadsKey, hread]
      · simp [ReadsKey, hread]

/-- A value that is skipped. -/
theorem follows_any {it : ι} {update : τ → τ} :
    Follows cbor .any it fun _ => .ok (advanceIgnoring cbor it, update) :=
  Settles.ok _

/-- A text that is read on the way. -/
theorem follows_text {it : ι} {size : Nat} {update : τ → τ} :
    Follows cbor (.text size) it
      fun _ => .ok (advanceIgnoring cbor (copyIgnoring cbor it size).2, update) :=
  Settles.ok _

/-- A value that has to be of one kind. -/
theorem settles_checked {α : Type} {it : ι} {result : Option α} {update : α → τ → τ} :
    Settles Prod.fst (fun _ => (check result >>= fun value =>
        .ok (advanceIgnoring cbor it, update value) : Run ι (ι × (τ → τ))))
      (fun next => result.isSome = true ∧ next = advanceIgnoring cbor it) False := by
  have hafter := Settles.after (ends_check result) fun value _ =>
    @Settles.ok ι (ι × (τ → τ)) ι Prod.fst (advanceIgnoring cbor it, update value)
  refine hafter.congr (fun next => ?_) ?_
  · simp only [check_eq_ok_iff, Option.isSome_iff_exists, exists_and_right]
  · simp

/-- The loop over the entries of a container. -/
theorem settles_entries {checked : Bool} {size : Nat} {fields : Bytes → Shape}
    {body : Nat → ι → Run ι (ι × (τ → τ))} (hbody : FollowsFields cbor checked size fields body)
    (inner : ι) :
    Settles Prod.fst (fun fuel => whileNotAtEnd cbor (body fuel) fuel inner)
      (EntriesConform cbor checked size fields inner)
      (Trapped (fun it => !cbor.atEnd it) (EntryConforms cbor checked size fields)
        (fun it => ∃ key value, ReadsKey cbor checked size it key value ∧
          Sticks cbor (fields key) value) inner) :=
  Settles.whileLoop hbody entryConforms_ahead inner

/-- A container of entries. -/
theorem follows_entries {τ' : Type} {it : ι} {checked more : Bool} {size : Nat}
    {fields : Bytes → Shape} {body : Nat → ι → Run ι (ι × (τ → τ))}
    {second : ι × (τ → τ) → Run ι (ι × (τ' → τ'))}
    (hbody : FollowsFields cbor checked size fields body)
    (hsecond : ∀ read, ∃ result, second read = .ok result ∧
      result.1 = afterContainer cbor more it read.1) :
    Follows cbor (.entries checked size fields more) it
      fun fuel => check (cbor.enterContainer it) >>= fun inner =>
        whileNotAtEnd cbor (body fuel) fuel inner >>= second := by
  have hafter := Settles.after (ends_check (cbor.enterContainer it)) fun inner _ =>
    (settles_entries hbody inner).andThen (afterContainer cbor more it) hsecond
  refine hafter.congr (fun next => ?_) ?_
  · simp only [check_eq_ok_iff, Conforms, EntriesConform, exists_and_left]
  · simp only [check_eq_ok_iff, sticks_entries_iff]

/-- The loop over the elements of a container. -/
theorem settles_elements {element : Shape} {body : Nat → Nat → ι → Run ι (ι × (τ → τ))}
    (hbody : ∀ idx it, Follows cbor element it fun fuel => body fuel idx it) (most : Nat)
    (inner : ι) :
    Settles (fun result => result.1.1) (fun fuel => whileNotAtEndUpTo cbor most (body fuel) inner)
      (WalkUpTo (fun it => !cbor.atEnd it) (Conforms cbor element) most inner)
      (TrappedUpTo (fun it => !cbor.atEnd it) (Conforms cbor element) (Sticks cbor element) most
        inner) :=
  Settles.upTo hbody most 0 inner

/-- A container of elements. -/
theorem follows_elements {τ' : Type} {it : ι} {most : Nat} {element : Shape} {more : Bool}
    {body : Nat → Nat → ι → Run ι (ι × (τ → τ))}
    {second : (ι × Nat) × (τ → τ) → Run ι (ι × (τ' → τ'))}
    (hbody : ∀ idx it, Follows cbor element it fun fuel => body fuel idx it)
    (hsecond : ∀ read, ∃ result, second read = .ok result ∧
      result.1 = afterContainer cbor more it read.1.1) :
    Follows cbor (.elements most element more) it
      fun fuel => check (cbor.enterContainer it) >>= fun inner =>
        whileNotAtEndUpTo cbor most (body fuel) inner >>= second := by
  have hafter := Settles.after (ends_check (cbor.enterContainer it)) fun inner _ =>
    (settles_elements hbody most inner).andThen (afterContainer cbor more it) hsecond
  refine hafter.congr (fun next => ?_) ?_
  · simp only [check_eq_ok_iff, Conforms, exists_and_left]
  · simp only [check_eq_ok_iff, Sticks]

end Follows

section Command

variable {ι : Type} {cbor : Tinycbor ι}

theorem setPwmEntry_follows :
    FollowsFields cbor true 7 (fun _ => .any) fun _ => setPwmEntry cbor :=
  followsFields_checked fun _ _ => follows_any

theorem pwmFreqEntry_follows :
    FollowsFields cbor false 7 (fun _ => .any) fun _ => pwmFreqEntry cbor := by
  refine followsFields_ignoring fun it key value hkey => ?_
  simp only [pwmFreqEntry, hkey]
  exact follows_any

theorem writeGpioEntry_follows :
    FollowsFields cbor false 11 writeGpioFields fun _ => writeGpioEntry cbor := by
  refine followsFields_ignoring fun it key value hkey => ?_
  unfold writeGpioEntry writeGpioFields
  rw [hkey]
  dsimp only
  by_cases hdev : key = ascii "dev"
  · simp only [if_pos hdev]
    exact follows_text
  by_cases hport : key = ascii "port"
  · simp only [if_neg hdev, if_pos hport]
    exact follows_text
  · simp only [if_neg hdev, if_neg hport]
    exact follows_any

theorem commandEntry_follows :
    FollowsFields cbor true 15 commandFields (commandEntry cbor) := by
  refine followsFields_checked fun key value => ?_
  unfold commandFields
  dsimp only
  split_ifs
  · exact settles_checked
  · exact settles_checked
  · exact follows_entries setPwmEntry_follows fun _ => ⟨_, rfl, rfl⟩
  · exact follows_entries pwmFreqEntry_follows fun _ => ⟨_, rfl, rfl⟩
  · exact follows_entries writeGpioEntry_follows fun _ => ⟨_, rfl, rfl⟩
  · exact follows_any

end Command

section SensorUpdate

variable {ι : Type} {cbor : Tinycbor ι} {target : CTarget}

/-- An identifier is read like any text. -/
theorem copyIdIgnoring_next (it : ι) :
    (copyIdIgnoring cbor it).2 = (copyIgnoring cbor it 15).2 := by
  unfold copyIdIgnoring copyIgnoring
  cases cbor.copyTextString it 15 <;> rfl

theorem sht20Entry_follows (idx : Nat) :
    FollowsFields cbor true 7 sht20Fields fun _ => sht20Entry cbor target idx := by
  refine followsFields_checked fun key value => ?_
  unfold sht20Fields
  dsimp only
  by_cases hid : key = ascii "id"
  · simp only [if_pos hid]
    refine (Settles.ok _).congr (fun next => ?_) Iff.rfl
    simp only [Conforms, copyIdIgnoring_next]
  by_cases hok : key = ascii "ok"
  · have ht : key ≠ ascii "t" := by
      rw [hok]
      decide
    have hrh : key ≠ ascii "rh" := by
      rw [hok]
      decide
    simp only [if_neg hid, if_neg ht, if_neg hrh, if_pos hok]
    exact settles_checked
  · simp only [if_neg hid, if_neg hok]
    split_ifs
    · exact follows_any
    · exact follows_any
    · exact follows_any

theorem ds18b20Entry_follows (idx : Nat) :
    FollowsFields cbor true 7 ds18b20Fields fun _ => ds18b20Entry cbor target idx := by
  refine followsFields_checked fun key value => ?_
  unfold ds18b20Fields
  dsimp only
  split_ifs
  · exact follows_text
  · exact follows_any
  · exact follows_any

theorem sht20Element_follows (idx : Nat) (it : ι) :
    Follows cbor (.entries true 7 sht20Fields false) it
      fun fuel => sht20Element cbor target fuel idx it :=
  follows_entries (sht20Entry_follows idx) fun _ => ⟨_, rfl, rfl⟩

theorem ds18b20Element_follows (idx : Nat) (it : ι) :
    Follows cbor (.entries true 7 ds18b20Fields false) it
      fun fuel => ds18b20Element cbor target fuel idx it :=
  follows_entries (ds18b20Entry_follows idx) fun _ => ⟨_, rfl, rfl⟩

theorem portEntry_follows (idx : Nat) :
    FollowsFields cbor false 1 (fun _ => .any) fun _ => portEntry cbor idx := by
  refine followsFields_ignoring fun it key value hkey => ?_
  simp only [portEntry, hkey]
  exact follows_any

theorem gpioEntry_follows : FollowsFields cbor false 5 gpioFields (gpioEntry cbor) := by
  refine followsFields_ignoring fun it key value hkey => ?_
  simp only [gpioEntry, gpioFields, hkey]
  cases sscanfMcp key with
  | none => exact follows_any
  | some idx =>
      dsimp only
      split_ifs
      · exact follows_entries (portEntry_follows idx) fun _ => ⟨_, rfl, rfl⟩
      · exact follows_any

theorem dutyElement_follows (idx : Nat) (it : ι) :
    Follows cbor .any it fun _ => dutyElement cbor idx it :=
  follows_any

theorem pcaEntry_follows : FollowsFields cbor false 7 pcaFields fun _ => pcaEntry cbor := by
  refine followsFields_ignoring fun it key value hkey => ?_
  simp only [pcaEntry, pcaFields, hkey]
  split_ifs
  · exact follows_any
  · exact follows_elements dutyElement_follows fun _ => ⟨_, rfl, rfl⟩
  · exact follows_any

theorem pwmEntry_follows : FollowsFields cbor false 11 pwmFields (pwmEntry cbor) := by
  refine followsFields_ignoring fun it key value hkey => ?_
  simp only [pwmEntry, pwmFields, hkey]
  split_ifs
  · exact follows_entries pcaEntry_follows fun _ => ⟨_, rfl, rfl⟩
  · exact follows_any

theorem sensorUpdateEntry_follows :
    FollowsFields cbor true 15 sensorUpdateFields (sensorUpdateEntry cbor target) := by
  refine followsFields_checked fun key value => ?_
  unfold sensorUpdateFields
  dsimp only
  split_ifs
  · exact settles_checked
  · exact settles_checked
  · exact follows_elements sht20Element_follows fun _ => ⟨_, rfl, rfl⟩
  · exact follows_elements ds18b20Element_follows fun _ => ⟨_, rfl, rfl⟩
  · exact follows_entries gpioEntry_follows fun _ => ⟨_, rfl, rfl⟩
  · exact follows_entries pwmEntry_follows fun _ => ⟨_, rfl, rfl⟩
  · exact follows_any

end SensorUpdate

section Decoders

variable {ι : Type} {cbor : Tinycbor ι} {target : CTarget} {payload : Bytes}

/-- A decoder that reads the entries of a map accepts the payloads that conform to its fields, and
ends on all but those that stick. -/
theorem decode_settles {τ : Type} {fields : Bytes → Shape} {body : Nat → ι → Run ι (ι × (τ → τ))}
    (hbody : FollowsFields cbor true 15 fields body) (start : τ) :
    Settles (fun _ => ()) (fun fuel => check (cbor.parserInit payload) >>= fun root =>
        if cbor.isMap root then
          check (cbor.enterContainer root) >>= fun map =>
            whileNotAtEnd cbor (body fuel) fuel map >>= fun read => .ok (read.2 start)
        else .error .rejected)
      (fun _ => PayloadConforms cbor fields payload) (PayloadSticks cbor fields payload) := by
  have hmap : ∀ root, Settles (fun _ => ()) (fun fuel => if cbor.isMap root then
        check (cbor.enterContainer root) >>= fun map =>
          whileNotAtEnd cbor (body fuel) fuel map >>= fun read => .ok (read.2 start)
      else .error .rejected)
      (fun _ => cbor.isMap root = true ∧ ∃ map, cbor.enterContainer root = some map ∧
        ∃ last, EntriesConform cbor true 15 fields map last)
      (cbor.isMap root = true ∧ Sticks cbor (.entries true 15 fields false) root) := by
    intro root
    by_cases hroot : cbor.isMap root = true
    · simp only [if_pos hroot]
      have hloop (map : ι) := @Settles.andThen ι (ι × (τ → τ)) ι τ Unit _ _ _ _ (fun _ => ())
        (fun read => .ok (read.2 start)) (settles_entries hbody map) (fun _ => ())
        fun read => ⟨read.2 start, rfl, rfl⟩
      have hafter := Settles.after (ends_check (cbor.enterContainer root)) fun map _ => hloop map
      refine hafter.congr (fun _ => ?_) ?_
      · simp only [check_eq_ok_iff, hroot, true_and, and_true]
      · simp only [check_eq_ok_iff, hroot, true_and, sticks_entries_iff]
    · simp only [if_neg hroot]
      exact Settles.rejected.congr (fun _ => by simp [hroot]) (by simp [hroot])
  have hdecode := Settles.after (ends_check (cbor.parserInit payload)) fun root _ => hmap root
  refine hdecode.congr (fun _ => ?_) ?_
  · simp only [check_eq_ok_iff, PayloadConforms, exists_and_left]
  · simp only [check_eq_ok_iff, PayloadSticks]

theorem decodeCommandCbor_settles :
    Settles (fun _ => ()) (fun fuel => decodeCommandCbor cbor fuel payload)
      (fun _ => PayloadConforms cbor commandFields payload)
      (PayloadSticks cbor commandFields payload) :=
  decode_settles commandEntry_follows {}

theorem decodeSensorUpdateCbor_settles :
    Settles (fun _ => ()) (fun fuel => decodeSensorUpdateCbor cbor target fuel payload)
      (fun _ => PayloadConforms cbor sensorUpdateFields payload)
      (PayloadSticks cbor sensorUpdateFields payload) :=
  decode_settles sensorUpdateEntry_follows {}

theorem accepts_command_iff :
    (∃ fuel msg, decodeCommandCbor cbor fuel payload = .ok msg) ↔
      PayloadConforms cbor commandFields payload :=
  decodeCommandCbor_settles.returns_iff.trans (exists_const Unit)

theorem accepts_sensorUpdate_iff :
    (∃ fuel msg, decodeSensorUpdateCbor cbor target fuel payload = .ok msg) ↔
      PayloadConforms cbor sensorUpdateFields payload :=
  decodeSensorUpdateCbor_settles.returns_iff.trans (exists_const Unit)

end Decoders

end SensorHmi
