import SensorHmi.Lib.Keyed
import SensorHmi.Lib.Numeral
import SensorHmi.Lib.Octets
import SensorHmi.Lib.Partition

/-!
# What the HMI makes of an mDNS record

`build_uri_from_result` of `hmi_node/main/net/ws_client.c`, and `build_uri` of
`tests/e2e/test_service_discovery.py`, which says what it is to give. `build_uri_agrees_iff` says
when it does. Texts are the characters before the NUL.
-/

namespace SensorHmi

open Octets Numeral

/-- What `ip4addr_ntoa_r` writes. -/
structure Ip4Text where
  text : Bytes
  plain : 47 ∉ text ∧ 58 ∉ text
  length_le : text.length ≤ 15

/-- What `ip6addr_ntoa_r` writes. -/
structure Ip6Text where
  text : Bytes
  plain : 47 ∉ text
  colon : 58 ∈ text
  length_le : text.length ≤ 45

/-- An element of the list `addr` of a result. -/
inductive MdnsAddr
  | v4 (addr : Ip4Text)
  | v6 (addr : Ip6Text)
  | other

/-- `mdns_result_t`. No two items of the TXT record have the same key; an item may have no value. -/
structure MdnsResult where
  hostname : Option Bytes
  port : UInt16
  txt : List (Bytes × Option Bytes)
  addr : List MdnsAddr
  keys_nodup : (txt.map Prod.fst).Nodup

/-- `service_metadata_t` -/
structure ServiceMetadata where
  proto : Bytes
  path : Bytes
  host : Bytes

/-- `strlcpy` into a buffer of `size` octets. -/
def strlcpy (size : Nat) (text : Bytes) : Bytes :=
  text.take (size - 1)

/-- `service_metadata_init` -/
def serviceMetadataInit : ServiceMetadata where
  proto := strlcpy 8 (ascii "wss")
  path := strlcpy 64 (ascii "/ws")
  host := []

/-- `is_token_valid` -/
def isTokenValid (value : Bytes) : Bool :=
  value ≠ [] && value.length < 32 && value.all fun c =>
    c = 45 || c = 43 || c = 46 || (97 ≤ c && c ≤ 122) || (48 ≤ c && c ≤ 57)

/-- `sanitize_path`: what is left in a buffer of `size` octets. -/
def sanitizePath (size : Nat) (value : Bytes) : Bytes :=
  match value with
  | [] => strlcpy size (ascii "/ws")
  | first :: _ =>
      -- `snprintf` into a buffer of 64 octets cuts as `strlcpy` does.
      if first ≠ 47 then strlcpy size (strlcpy 64 (47 :: value)) else strlcpy size value

/-- `strchr`: the text from there on. -/
def strchr (text : Bytes) (c : UInt8) : Option Bytes :=
  (Partition.split [c] text).map fun parts => c :: parts.2

/-- One item in the loop of `apply_txt_metadata`. -/
def applyTxtItem (metadata : ServiceMetadata) (item : Bytes × Bytes) : ServiceMetadata :=
  let (key, value) := item
  if key = ascii "proto" then
    if isTokenValid value then { metadata with proto := strlcpy 8 value } else metadata
  else if key = ascii "path" then { metadata with path := sanitizePath 64 value }
  else if key = ascii "uri" then
    match Partition.split (ascii "://") value with
    | none => metadata
    | some (scheme, rest) =>
        if scheme.length < 8 then
          let metadata :=
            if isTokenValid scheme then { metadata with proto := strlcpy 8 scheme } else metadata
          match strchr rest 47 with
          | some path => { metadata with path := sanitizePath 64 path }
          | none => metadata
        else metadata
  else if key = ascii "host" ∨ key = ascii "sni" then
    if value.length < 64 then { metadata with host := strlcpy 64 value } else metadata
  else metadata

/-- The items that have a value. -/
def MdnsResult.entries (result : MdnsResult) : List (Bytes × Bytes) :=
  result.txt.filterMap fun item => item.2.map fun value => (item.1, value)

/-- `apply_txt_metadata` -/
def applyTxtMetadata (metadata : ServiceMetadata) (result : MdnsResult) : ServiceMetadata :=
  result.entries.foldl applyTxtItem metadata

/-- `set_discovered_server_name` -/
def setDiscoveredServerName (name : Option Bytes) : Bytes :=
  match name with
  | some (first :: rest) => strlcpy 64 (first :: rest)
  | _ => []

/-- The buffer `host` for an address, unless it is skipped. -/
def MdnsAddr.host : MdnsAddr → Option Bytes
  | .v6 addr =>
      let host := ascii "[" ++ addr.text ++ ascii "]"
      if 49 ≤ host.length then none else some host
  | .v4 addr => some (strlcpy 49 addr.text)
  | .other => none

/-- The format `%s://%s:%u%s`. -/
def serviceUri (proto host : Bytes) (port : UInt16) (path : Bytes) : Bytes :=
  proto ++ ascii "://" ++ host ++ ascii ":" ++ natText port.toNat ++ path

/-- The loop of `build_uri_from_result` over the addresses: the URI, unless false is returned, and
`s_discovered_server_name`. -/
def tryAddresses (metadata : ServiceMetadata) (result : MdnsResult) (uriLen : Nat)
    (serverName : Bytes) : List MdnsAddr → Option Bytes × Bytes
  | [] => (none, serverName)
  | addr :: rest =>
      match addr.host with
      | none => tryAddresses metadata result uriLen serverName rest
      | some host =>
          let uri := serviceUri metadata.proto host result.port metadata.path
          if uri.length < uriLen then
            (some uri,
              if metadata.host ≠ [] then setDiscoveredServerName (some metadata.host)
              else setDiscoveredServerName result.hostname)
          else tryAddresses metadata result uriLen serverName rest

/-- `build_uri_from_result` -/
def buildUriFromResult (result : MdnsResult) (uriLen : Nat) (serverName : Bytes) :
    Option Bytes × Bytes :=
  if uriLen = 0 then (none, serverName)
  else
    let metadata := applyTxtMetadata serviceMetadataInit result
    if metadata.proto ≠ ascii "wss" ∧ metadata.proto ≠ ascii "ws" then (none, serverName)
    else tryAddresses metadata result uriLen serverName result.addr

/-- `MdnsRecord` of the test. -/
structure MdnsRecord where
  addresses : List Bytes
  port : UInt16
  txt : List (Bytes × Bytes)
  hostname : Option Bytes

/-- The text of an address. -/
def MdnsAddr.text : MdnsAddr → Option Bytes
  | .v4 addr => some addr.text
  | .v6 addr => some addr.text
  | .other => none

/-- The same record as the test has it. -/
def MdnsResult.record (result : MdnsResult) : MdnsRecord where
  addresses := result.addr.filterMap MdnsAddr.text
  port := result.port
  txt := result.entries
  hostname := result.hostname

namespace MdnsRecord

variable (record : MdnsRecord)

/-- `_sanitize_path` -/
def sanitizePath : Option Bytes → Bytes
  | some (first :: rest) => if first = 47 then first :: rest else 47 :: first :: rest
  | _ => ascii "/ws"

/-- `scheme` and `rest`, where the item `uri` has both. -/
def uriParts : Option (Bytes × Bytes) :=
  (record.txt.lookup (ascii "uri")).bind (Partition.split (ascii "://"))

/-- `proto` -/
def proto : Bytes :=
  match record.uriParts with
  | some (scheme, _) => scheme
  | none => (record.txt.lookup (ascii "proto")).getD (ascii "wss")

/-- The path the item `uri` puts in the place of the item `path`. -/
def pathOverride : Option Bytes :=
  record.uriParts.bind fun parts =>
    (Partition.split (ascii "/") parts.2).map fun halves => ascii "/" ++ halves.2

/-- `path` -/
def path : Bytes :=
  sanitizePath (record.pathOverride.or (record.txt.lookup (ascii "path")))

/-- `or` on texts -/
def orElse : Option Bytes → Option Bytes → Option Bytes
  | some (first :: rest), _ => some (first :: rest)
  | _, other => other

/-- `host_override` -/
def hostOverride : Option Bytes :=
  orElse (orElse (record.txt.lookup (ascii "host")) (record.txt.lookup (ascii "sni")))
    record.hostname

/-- `host` -/
def host (addr : Bytes) : Bytes :=
  if 58 ∈ addr then ascii "[" ++ addr ++ ascii "]" else addr

/-- `build_uri`; none is the `ValueError`. -/
def buildUri : Option (Bytes × Option Bytes) :=
  match record.addresses with
  | [] => none
  | addr :: _ =>
      some (serviceUri record.proto (host addr) record.port record.path, record.hostOverride)

/-- The name that is used for TLS; none and the empty text are no name. -/
def serverName : Bytes :=
  record.hostOverride.getD []

end MdnsRecord

/-- The schemes that are supported. -/
def IsWs (proto : Bytes) : Prop :=
  proto = ascii "ws" ∨ proto = ascii "wss"

/-- What an item of the keys `uri` and `proto` does to `proto`. -/
def changeProto (proto : Bytes) (item : Bytes × Bytes) : Bytes :=
  if item.1 = ascii "proto" then
    if isTokenValid item.2 then strlcpy 8 item.2 else proto
  else
    match Partition.split (ascii "://") item.2 with
    | some (scheme, _) =>
        if scheme.length < 8 ∧ isTokenValid scheme = true then strlcpy 8 scheme else proto
    | none => proto

/-- What an item of the keys `uri` and `path` does to `path`. -/
def changePath (path : Bytes) (item : Bytes × Bytes) : Bytes :=
  if item.1 = ascii "path" then sanitizePath 64 item.2
  else
    match Partition.split (ascii "://") item.2 with
    | some (scheme, rest) =>
        if scheme.length < 8 then ((strchr rest 47).map (sanitizePath 64)).getD path else path
    | none => path

/-- What an item of the keys `host` and `sni` does to `host`. -/
def changeHost (host : Bytes) (item : Bytes × Bytes) : Bytes :=
  if item.2.length < 64 then strlcpy 64 item.2 else host

section Parts

variable {metadata : ServiceMetadata} {key value : Bytes}

theorem applyTxtItem_proto :
    applyTxtItem metadata (ascii "proto", value) =
      { metadata with proto := changeProto metadata.proto (ascii "proto", value) } := by
  simp only [applyTxtItem, changeProto, if_true]
  split_ifs <;> rfl

theorem applyTxtItem_path :
    applyTxtItem metadata (ascii "path", value) =
      { metadata with path := sanitizePath 64 value } := by
  rw [applyTxtItem, if_neg (by decide), if_pos rfl]

theorem applyTxtItem_uri :
    applyTxtItem metadata (ascii "uri", value) =
      { metadata with
        proto := changeProto metadata.proto (ascii "uri", value)
        path := changePath metadata.path (ascii "uri", value) } := by
  have hproto : ascii "uri" ≠ ascii "proto" := by decide
  have hpath : ascii "uri" ≠ ascii "path" := by decide
  simp only [applyTxtItem, changeProto, changePath, if_neg hproto, if_neg hpath, if_true]
  cases Partition.split (ascii "://") value with
  | none => rfl
  | some parts =>
      simp only
      by_cases hshort : parts.1.length < 8
      · simp only [hshort, true_and]
        cases strchr parts.2 47 with
        | none => split_ifs <;> rfl
        | some path => split_ifs <;> rfl
      · simp only [hshort, false_and, if_false]

theorem applyTxtItem_host (h : key = ascii "host" ∨ key = ascii "sni") :
    applyTxtItem metadata (key, value) =
      { metadata with host := changeHost metadata.host (key, value) } := by
  have hother : key ≠ ascii "proto" ∧ key ≠ ascii "path" ∧ key ≠ ascii "uri" := by
    rcases h with rfl | rfl <;> decide
  rw [applyTxtItem, if_neg hother.1, if_neg hother.2.1, if_neg hother.2.2, if_pos h, changeHost]
  split_ifs <;> rfl

theorem applyTxtItem_other (hproto : key ≠ ascii "proto") (hpath : key ≠ ascii "path")
    (huri : key ≠ ascii "uri") (hhost : ¬ (key = ascii "host" ∨ key = ascii "sni")) :
    applyTxtItem metadata (key, value) = metadata := by
  rw [applyTxtItem, if_neg hproto, if_neg hpath, if_neg huri, if_neg hhost]

end Parts

section Metadata

variable (result : MdnsResult)

/-- What the TXT record makes of the metadata. -/
def MdnsResult.metadata : ServiceMetadata :=
  applyTxtMetadata serviceMetadataInit result

theorem MdnsResult.entries_nodup : (result.entries.map Prod.fst).Nodup := by
  have hkeys : result.entries.map Prod.fst =
      (result.txt.filter fun item => item.2.isSome).map Prod.fst := by
    rw [MdnsResult.entries]
    induction result.txt with
    | nil => rfl
    | cons item rest ih =>
        obtain ⟨key, value⟩ := item
        cases value with
        | none => simpa using ih
        | some text => simpa using ih
  rw [hkeys]
  exact (List.filter_sublist.map _).nodup result.keys_nodup

theorem metadata_proto :
    result.metadata.proto =
      (Keyed.both (ascii "uri") (ascii "proto") result.entries).foldl changeProto
        (ascii "wss") := by
  refine Keyed.foldl_both ServiceMetadata.proto ?_ ?_ _
  · rintro metadata ⟨key, value⟩ huri hproto
    by_cases hpath : key = ascii "path"
    · rw [hpath, applyTxtItem_path]
    · by_cases hhost : key = ascii "host" ∨ key = ascii "sni"
      · rw [applyTxtItem_host hhost]
      · rw [applyTxtItem_other hproto hpath huri hhost]
  · rintro metadata ⟨key, value⟩ (rfl | rfl)
    · rw [applyTxtItem_uri]
    · rw [applyTxtItem_proto]

theorem metadata_path :
    result.metadata.path =
      (Keyed.both (ascii "uri") (ascii "path") result.entries).foldl changePath (ascii "/ws") := by
  refine Keyed.foldl_both ServiceMetadata.path ?_ ?_ _
  · rintro metadata ⟨key, value⟩ huri hpath
    by_cases hproto : key = ascii "proto"
    · rw [hproto, applyTxtItem_proto]
    · by_cases hhost : key = ascii "host" ∨ key = ascii "sni"
      · rw [applyTxtItem_host hhost]
      · rw [applyTxtItem_other hproto hpath huri hhost]
  · rintro metadata ⟨key, value⟩ (rfl | rfl)
    · rw [applyTxtItem_uri]
    · rw [applyTxtItem_path]
      rfl

theorem metadata_host :
    result.metadata.host =
      (Keyed.both (ascii "host") (ascii "sni") result.entries).foldl changeHost [] := by
  refine Keyed.foldl_both ServiceMetadata.host ?_ ?_ _
  · rintro metadata ⟨key, value⟩ hhost hsni
    by_cases hproto : key = ascii "proto"
    · rw [hproto, applyTxtItem_proto]
    · by_cases hpath : key = ascii "path"
      · rw [hpath, applyTxtItem_path]
      · by_cases huri : key = ascii "uri"
        · rw [huri, applyTxtItem_uri]
        · rw [applyTxtItem_other hproto hpath huri (not_or.mpr ⟨hhost, hsni⟩)]
  · rintro metadata ⟨key, value⟩ hkey
    rw [applyTxtItem_host hkey]

end Metadata

section Proto

variable {result : MdnsResult} {scheme rest value proto : Bytes}

theorem IsWs.token (h : IsWs proto) :
    proto.length < 8 ∧ isTokenValid proto = true ∧ strlcpy 8 proto = proto := by
  rcases h with rfl | rfl <;> decide

/-- A supported scheme was not cut. -/
theorem IsWs.strlcpy_eq (h : IsWs (strlcpy 8 proto)) : strlcpy 8 proto = proto := by
  refine List.take_of_length_le (by_contra fun hlong => ?_)
  have hlength : (strlcpy 8 proto).length = 7 := by
    rw [strlcpy, List.length_take]
    omega
  rcases h with h | h
  · rw [h] at hlength
    exact absurd hlength (by decide)
  · rw [h] at hlength
    exact absurd hlength (by decide)

theorem changeProto_uri (h : Partition.split (ascii "://") value = some (scheme, rest))
    (hws : IsWs scheme) : changeProto proto (ascii "uri", value) = scheme := by
  have hother : ascii "uri" ≠ ascii "proto" := by decide
  simp only [changeProto, if_neg hother, h]
  rw [if_pos ⟨hws.token.1, hws.token.2.1⟩, hws.token.2.2]

theorem changeProto_uri_none (h : Partition.split (ascii "://") value = none) :
    changeProto proto (ascii "uri", value) = proto := by
  have hother : ascii "uri" ≠ ascii "proto" := by decide
  simp only [changeProto, if_neg hother, h]

theorem changeProto_proto :
    changeProto proto (ascii "proto", value) =
      if isTokenValid value then strlcpy 8 value else proto :=
  if_pos rfl

/-- Where the item `uri` has a scheme, the scheme is taken over exactly if it is supported and no
other token follows it. -/
theorem metadata_proto_eq_scheme_iff (hparts : result.record.uriParts = some (scheme, rest))
    (hws : IsWs result.metadata.proto) :
    result.metadata.proto = scheme ↔ IsWs scheme ∧
      ∀ proto, result.entries.lookup (ascii "proto") = some proto →
        Keyed.Precedes (ascii "uri") (ascii "proto") result.entries →
          isTokenValid proto = true → proto = scheme := by
  obtain ⟨uri, huri, hsplit⟩ := Option.bind_eq_some_iff.mp hparts
  by_cases hscheme : IsWs scheme
  · rw [and_iff_right hscheme]
    rw [metadata_proto] at hws ⊢
    cases Keyed.shape result.entries_nodup (by decide : ascii "uri" ≠ ascii "proto") with
    | neither hnone | second _ hnone =>
        exact absurd (hnone.symm.trans huri) (Option.some_ne_none uri).symm
    | first value hvalue hproto hboth =>
        obtain rfl := Option.some.inj (hvalue.symm.trans huri)
        rw [hboth]
        refine iff_of_true (changeProto_uri hsplit hscheme) fun proto hfound => ?_
        exact absurd (hproto.symm.trans hfound) (Option.some_ne_none proto).symm
    | inOrder value proto hvalue hproto hboth =>
        obtain rfl := Option.some.inj (hvalue.symm.trans huri)
        have horder := Keyed.precedes_of_both hboth
        rw [hboth, List.foldl_cons, List.foldl_cons, List.foldl_nil, changeProto_uri hsplit hscheme,
          changeProto_proto] at hws ⊢
        simp only [hproto, Option.some.injEq, forall_eq', horder, true_imp_iff]
        split_ifs at hws ⊢ with hvalid
        · rw [hws.strlcpy_eq, imp_iff_right hvalid]
        · exact iff_of_true rfl fun h => absurd h hvalid
    | swapped value proto hvalue hproto hboth =>
        obtain rfl := Option.some.inj (hvalue.symm.trans huri)
        rw [hboth]
        exact iff_of_true (changeProto_uri hsplit hscheme) fun _ _ horder =>
          absurd horder (Keyed.not_precedes_of_both (by decide) hboth)
  · exact iff_of_false (fun h => hscheme (h ▸ hws)) fun h => hscheme h.1

/-- Where the item `uri` has no scheme, the item `proto` decides if it is a token. -/
theorem metadata_proto_of_no_uriParts (hparts : result.record.uriParts = none) :
    result.metadata.proto =
      (result.entries.lookup (ascii "proto")).elim (ascii "wss") fun proto =>
        if isTokenValid proto then strlcpy 8 proto else ascii "wss" := by
  have huri {value proto : Bytes} (hvalue : result.entries.lookup (ascii "uri") = some value) :
      changeProto proto (ascii "uri", value) = proto :=
    changeProto_uri_none (Option.bind_eq_none_iff.mp hparts value hvalue)
  rw [metadata_proto]
  cases Keyed.shape result.entries_nodup (by decide : ascii "uri" ≠ ascii "proto") with
  | neither _ hproto hboth =>
      rw [hboth, hproto]
      rfl
  | first value hvalue hproto hboth =>
      rw [hboth, hproto]
      exact huri hvalue
  | second proto _ hproto hboth =>
      rw [hboth, hproto]
      exact changeProto_proto
  | inOrder value proto hvalue hproto hboth =>
      rw [hboth, hproto, List.foldl_cons, huri hvalue]
      exact changeProto_proto
  | swapped value proto hvalue hproto hboth =>
      rw [hboth, hproto, List.foldl_cons, List.foldl_cons, huri hvalue]
      exact changeProto_proto

end Proto

section Path

variable {result : MdnsResult} {value path override : Bytes}

/-- A path is sanitised as in the test, and cut. -/
theorem sanitizePath_eq (value : Bytes) :
    sanitizePath 64 value = (MdnsRecord.sanitizePath (some value)).take 63 := by
  cases value with
  | nil => rfl
  | cons first rest =>
      simp only [sanitizePath, MdnsRecord.sanitizePath]
      by_cases hslash : first = 47
      · rw [if_neg (not_not.mpr hslash), if_pos hslash]
        rfl
      · rw [if_pos hslash, if_neg hslash]
        exact List.take_take.trans (by rw [min_self])

theorem head_sanitizePath (path : Option Bytes) :
    (MdnsRecord.sanitizePath path).head? = some 47 := by
  rcases path with _ | ⟨_ | ⟨first, rest⟩⟩
  · rfl
  · rfl
  · rw [MdnsRecord.sanitizePath]
    split_ifs with hslash
    · rw [hslash]
      rfl
    · rfl

theorem changePath_path : changePath path (ascii "path", value) = sanitizePath 64 value :=
  if_pos rfl

/-- A path override is what `strchr` finds behind a scheme. -/
theorem pathOverride_eq :
    result.record.pathOverride = result.record.uriParts.bind fun parts => strchr parts.2 47 :=
  rfl

theorem changePath_uri {scheme rest : Bytes}
    (h : Partition.split (ascii "://") value = some (scheme, rest)) (hshort : scheme.length < 8)
    (hfound : strchr rest 47 = some override) :
    changePath path (ascii "uri", value) = override.take 63 := by
  have hother : ascii "uri" ≠ ascii "path" := by decide
  simp only [changePath, if_neg hother, h]
  rw [if_pos hshort, hfound, Option.map_some, Option.getD_some, sanitizePath_eq]
  obtain ⟨parts, -, rfl⟩ := Option.map_eq_some_iff.mp hfound
  rfl

theorem changePath_uri_none
    (h : (Partition.split (ascii "://") value).bind (fun parts => strchr parts.2 47) = none) :
    changePath path (ascii "uri", value) = path := by
  have hother : ascii "uri" ≠ ascii "path" := by decide
  simp only [changePath, if_neg hother]
  cases hsplit : Partition.split (ascii "://") value with
  | none => rfl
  | some parts =>
      have hnone : strchr parts.2 47 = none := by rwa [hsplit] at h
      simp only [hnone, Option.map_none, Option.getD_none, ite_self]

/-- Where the item `uri` has a path, that is taken over exactly if it is short enough and no other
path follows it. -/
theorem metadata_path_eq_iff_of_override (h : result.record.pathOverride = some override)
    (hshort : ∀ scheme rest, result.record.uriParts = some (scheme, rest) → scheme.length < 8) :
    result.metadata.path = result.record.path ↔ result.record.path.length < 64 ∧
      ∀ path, result.entries.lookup (ascii "path") = some path →
        Keyed.Precedes (ascii "uri") (ascii "path") result.entries →
          (MdnsRecord.sanitizePath (some path)).take 63 = override := by
  obtain ⟨parts, hparts, hfound⟩ := Option.bind_eq_some_iff.mp (pathOverride_eq.symm.trans h)
  obtain ⟨uri, huri, hsplit⟩ := Option.bind_eq_some_iff.mp hparts
  have hpath : result.record.path = override := by
    rw [MdnsRecord.path, h]
    obtain ⟨halves, -, rfl⟩ := Option.map_eq_some_iff.mp hfound
    rfl
  have hchange (path : Bytes) : changePath path (ascii "uri", uri) = override.take 63 :=
    changePath_uri hsplit (hshort parts.1 parts.2 hparts) hfound
  have hcut : override.take 63 = override ↔ override.length < 64 := by
    rw [List.take_eq_self_iff, Nat.lt_succ_iff]
  rw [hpath, metadata_path]
  cases Keyed.shape result.entries_nodup (by decide : ascii "uri" ≠ ascii "path") with
  | neither hnone | second _ hnone =>
      exact absurd (hnone.symm.trans huri) (Option.some_ne_none uri).symm
  | first value hvalue hnone hboth =>
      obtain rfl := Option.some.inj (hvalue.symm.trans huri)
      rw [hboth, List.foldl_cons, List.foldl_nil, hchange, hcut, hnone]
      simp
  | inOrder value path hvalue hother hboth =>
      obtain rfl := Option.some.inj (hvalue.symm.trans huri)
      rw [hboth, List.foldl_cons, List.foldl_cons, List.foldl_nil, changePath_path, sanitizePath_eq,
        hother]
      simp only [Option.some.injEq, forall_eq', Keyed.precedes_of_both hboth, true_imp_iff]
      refine (and_iff_right_of_imp fun hsame => ?_).symm
      rw [← hsame, List.length_take]
      omega
  | swapped value path hvalue hother hboth =>
      obtain rfl := Option.some.inj (hvalue.symm.trans huri)
      have horder := Keyed.not_precedes_of_both (by decide) hboth
      rw [hboth, List.foldl_cons, List.foldl_cons, List.foldl_nil, hchange, hcut]
      simp only [horder, false_imp_iff, implies_true, and_true]

/-- Where the item `uri` has no path, the path of the test is cut. -/
theorem metadata_path_of_no_override (h : result.record.pathOverride = none) :
    result.metadata.path = result.record.path.take 63 := by
  have huri {value path : Bytes} (hvalue : result.entries.lookup (ascii "uri") = some value) :
      changePath path (ascii "uri", value) = path := by
    refine changePath_uri_none ?_
    rw [pathOverride_eq, MdnsRecord.uriParts, show result.record.txt = result.entries from rfl,
      hvalue] at h
    exact h
  have hpath : result.record.path =
      MdnsRecord.sanitizePath (result.entries.lookup (ascii "path")) := by
    rw [MdnsRecord.path, h]
    rfl
  rw [hpath, metadata_path]
  cases Keyed.shape result.entries_nodup (by decide : ascii "uri" ≠ ascii "path") with
  | neither _ hnone hboth =>
      rw [hboth, hnone]
      rfl
  | first value hvalue hnone hboth =>
      rw [hboth, hnone]
      exact huri hvalue
  | second path _ hfound hboth =>
      rw [hboth, hfound]
      exact sanitizePath_eq path
  | inOrder value path hvalue hfound hboth =>
      rw [hboth, hfound]
      exact sanitizePath_eq path
  | swapped value path hvalue hfound hboth =>
      rw [hboth, hfound, List.foldl_cons, List.foldl_cons, List.foldl_nil, huri hvalue]
      exact sanitizePath_eq path

end Path

section Name

variable {result : MdnsResult}

/-- The host if there is one, else the hostname, cut. -/
def serverNameOf (host : Bytes) (hostname : Option Bytes) : Bytes :=
  if host ≠ [] then setDiscoveredServerName (some host) else setDiscoveredServerName hostname

theorem setDiscoveredServerName_eq (name : Option Bytes) :
    setDiscoveredServerName name = (name.getD []).take 63 := by
  rcases name with _ | ⟨_ | ⟨first, rest⟩⟩ <;> rfl

theorem serverNameOf_nil (hostname : Option Bytes) :
    serverNameOf [] hostname = (hostname.getD []).take 63 :=
  setDiscoveredServerName_eq hostname

theorem serverNameOf_cons {host : Bytes} (hne : host ≠ []) (hfits : host.length < 64)
    (hostname : Option Bytes) : serverNameOf host hostname = host := by
  rw [serverNameOf, if_pos hne, setDiscoveredServerName_eq]
  exact List.take_of_length_le (Nat.le_of_lt_succ hfits)

theorem length_serverNameOf (host : Bytes) (hostname : Option Bytes) :
    (serverNameOf host hostname).length < 64 := by
  rw [serverNameOf]
  split_ifs
  all_goals
    rw [setDiscoveredServerName_eq, List.length_take]
    omega

theorem changeHost_eq (host : Bytes) (key value : Bytes) :
    changeHost host (key, value) = if value.length < 64 then value else host := by
  rw [changeHost]
  split_ifs with hfits
  · exact List.take_of_length_le (Nat.le_of_lt_succ hfits)
  · rfl

theorem MdnsRecord.getD_orElse (first other : Option Bytes) :
    (orElse first other).getD [] = if first.getD [] = [] then other.getD [] else first.getD [] := by
  rcases first with _ | ⟨_ | ⟨c, rest⟩⟩ <;> rfl

/-- The name of the test: the host, else the SNI, else the hostname. -/
theorem MdnsRecord.serverName_eq (record : MdnsRecord) :
    record.serverName =
      if (record.txt.lookup (ascii "host")).getD [] = [] then
        if (record.txt.lookup (ascii "sni")).getD [] = [] then record.hostname.getD []
        else (record.txt.lookup (ascii "sni")).getD []
      else (record.txt.lookup (ascii "host")).getD [] := by
  rw [serverName, hostOverride, getD_orElse, getD_orElse]
  by_cases hhost : (record.txt.lookup (ascii "host")).getD [] = []
  · simp only [hhost, if_true]
  · simp only [hhost, if_false]

/-- With one item, the name is that of the test if this fits. -/
theorem serverNameOf_single {value : Bytes} {hostname : Option Bytes}
    (hfits : (if value = [] then hostname.getD [] else value).length < 64) :
    serverNameOf (if value.length < 64 then value else []) hostname =
      if value = [] then hostname.getD [] else value := by
  by_cases hvalue : value = []
  · rw [if_pos hvalue] at hfits ⊢
    rw [hvalue, ite_self, serverNameOf_nil]
    exact List.take_of_length_le (Nat.le_of_lt_succ hfits)
  · rw [if_neg hvalue] at hfits ⊢
    rw [if_pos hfits, serverNameOf_cons hvalue hfits]

/-- What two items for the name are to be for the last one that fits to be the one of the test. -/
def MdnsResult.NamesAgree (result : MdnsResult) : Prop :=
  ∀ host sni, result.entries.lookup (ascii "host") = some host →
    result.entries.lookup (ascii "sni") = some sni → host.length < 64 → sni.length < 64 →
      (Keyed.Precedes (ascii "sni") (ascii "host") result.entries → host = [] → sni ≠ [] →
          (result.hostname.getD []).take 63 = sni) ∧
        (Keyed.Precedes (ascii "host") (ascii "sni") result.entries → host ≠ [] →
          (if sni = [] then (result.hostname.getD []).take 63 else sni) = host)

theorem namesAgree_iff {host sni : Bytes}
    (hhost : result.entries.lookup (ascii "host") = some host)
    (hsni : result.entries.lookup (ascii "sni") = some sni) :
    result.NamesAgree ↔ (host.length < 64 → sni.length < 64 →
      (Keyed.Precedes (ascii "sni") (ascii "host") result.entries → host = [] → sni ≠ [] →
          (result.hostname.getD []).take 63 = sni) ∧
        (Keyed.Precedes (ascii "host") (ascii "sni") result.entries → host ≠ [] →
          (if sni = [] then (result.hostname.getD []).take 63 else sni) = host)) := by
  refine ⟨fun h => h host sni hhost hsni, fun h other otherSni hother hotherSni => ?_⟩
  obtain rfl := Option.some.inj (hhost.symm.trans hother)
  obtain rfl := Option.some.inj (hsni.symm.trans hotherSni)
  exact h

theorem serverName_eq_iff :
    serverNameOf result.metadata.host result.hostname = result.record.serverName ↔
      result.record.serverName.length < 64 ∧ result.NamesAgree := by
  by_cases hfits : result.record.serverName.length < 64
  · rw [and_iff_right hfits]
    have hname := MdnsRecord.serverName_eq result.record
    rw [show result.record.txt = result.entries from rfl,
      show result.record.hostname = result.hostname from rfl] at hname
    rw [hname] at hfits ⊢
    rw [metadata_host]
    have hvacuous (h : result.entries.lookup (ascii "host") = none ∨
        result.entries.lookup (ascii "sni") = none) : result.NamesAgree := by
      intro host sni hhost hsni
      rcases h with h | h
      · exact absurd (h.symm.trans hhost) (Option.some_ne_none host).symm
      · exact absurd (h.symm.trans hsni) (Option.some_ne_none sni).symm
    cases Keyed.shape result.entries_nodup (by decide : ascii "host" ≠ ascii "sni") with
    | neither hhost hsni hboth =>
        refine iff_of_true ?_ (hvacuous (Or.inl hhost))
        rw [hhost, hsni] at hfits ⊢
        rw [hboth, List.foldl_nil, serverNameOf_nil]
        exact List.take_of_length_le (Nat.le_of_lt_succ hfits)
    | first host hhost hsni hboth =>
        refine iff_of_true ?_ (hvacuous (Or.inr hsni))
        rw [hhost, hsni] at hfits ⊢
        rw [hboth, List.foldl_cons, List.foldl_nil, changeHost_eq]
        exact serverNameOf_single hfits
    | second sni hhost hsni hboth =>
        refine iff_of_true ?_ (hvacuous (Or.inl hhost))
        rw [hhost, hsni] at hfits ⊢
        rw [hboth, List.foldl_cons, List.foldl_nil, changeHost_eq]
        exact serverNameOf_single hfits
    | inOrder host sni hhost hsni hboth =>
        have hnames : result.NamesAgree ↔ (host.length < 64 → sni.length < 64 → host ≠ [] →
            (if sni = [] then (result.hostname.getD []).take 63 else sni) = host) := by
          simp only [namesAgree_iff hhost hsni, Keyed.precedes_of_both hboth,
            Keyed.not_precedes_of_both (by decide) (Keyed.both_comm.trans hboth), false_imp_iff,
            true_imp_iff, true_and]
        rw [hhost, hsni] at hfits ⊢
        rw [hnames, hboth, List.foldl_cons, List.foldl_cons, List.foldl_nil, changeHost_eq,
          changeHost_eq]
        simp only [Option.getD_some] at hfits ⊢
        by_cases hempty : host = []
        · subst hempty
          simp only [if_true] at hfits ⊢
          refine iff_of_true ?_ fun _ _ hne => absurd rfl hne
          rw [ite_self]
          exact serverNameOf_single hfits
        · rw [if_neg hempty] at hfits ⊢
          rw [imp_iff_right hfits, if_pos hfits]
          by_cases hsniFits : sni.length < 64
          · rw [if_pos hsniFits, imp_iff_right hsniFits, imp_iff_right hempty]
            by_cases hsniEmpty : sni = []
            · rw [if_pos hsniEmpty, hsniEmpty, serverNameOf_nil]
            · rw [if_neg hsniEmpty, serverNameOf_cons hsniEmpty hsniFits]
          · rw [if_neg hsniFits, serverNameOf_cons hempty hfits]
            exact iff_of_true rfl fun h => absurd h hsniFits
    | swapped host sni hhost hsni hboth =>
        have hnames : result.NamesAgree ↔ (host.length < 64 → sni.length < 64 → host = [] →
            sni ≠ [] → (result.hostname.getD []).take 63 = sni) := by
          simp only [namesAgree_iff hhost hsni,
            Keyed.precedes_of_both (Keyed.both_comm.trans hboth),
            Keyed.not_precedes_of_both (by decide) hboth, false_imp_iff, true_imp_iff, and_true]
        rw [hhost, hsni] at hfits ⊢
        rw [hnames, hboth, List.foldl_cons, List.foldl_cons, List.foldl_nil, changeHost_eq,
          changeHost_eq]
        simp only [Option.getD_some] at hfits ⊢
        by_cases hempty : host = []
        · subst hempty
          simp only [if_true] at hfits ⊢
          rw [if_pos (by decide), serverNameOf_nil, imp_iff_right (by decide)]
          by_cases hsniEmpty : sni = []
          · rw [if_pos hsniEmpty] at hfits ⊢
            refine iff_of_true (List.take_of_length_le (Nat.le_of_lt_succ hfits)) fun _ _ hne => ?_
            exact absurd hsniEmpty hne
          · rw [if_neg hsniEmpty] at hfits ⊢
            rw [imp_iff_right hfits, imp_iff_right trivial, imp_iff_right hsniEmpty]
        · rw [if_neg hempty] at hfits ⊢
          rw [if_pos hfits, serverNameOf_cons hempty hfits]
          exact iff_of_true rfl fun _ _ h => absurd h hempty
  · exact iff_of_false (fun h => hfits (h ▸ length_serverNameOf _ _)) fun h => hfits h.1

end Name

section Addresses

variable {result : MdnsResult} {metadata : ServiceMetadata} {uriLen : Nat} {serverName : Bytes}
  {addrs : List MdnsAddr} {first : Bytes}

/-- The host of an address is that of the test. -/
theorem MdnsAddr.host_eq (addr : MdnsAddr) : addr.host = addr.text.map MdnsRecord.host := by
  cases addr with
  | v4 addr =>
      have hlength : strlcpy 49 addr.text = addr.text :=
        List.take_of_length_le (addr.length_le.trans (by decide))
      rw [MdnsAddr.host, hlength, MdnsAddr.text, Option.map_some, MdnsRecord.host,
        if_neg addr.plain.2]
  | v6 addr =>
      have hlength : ¬ 49 ≤ (ascii "[" ++ addr.text ++ ascii "]").length := by
        have hshort := addr.length_le
        simp only [List.length_append, show (ascii "[").length = 1 from rfl,
          show (ascii "]").length = 1 from rfl]
        omega
      simp only [MdnsAddr.host, MdnsAddr.text, Option.map_some, MdnsRecord.host, if_pos addr.colon,
        if_neg hlength]
  | other => rfl

theorem filterMap_host (addrs : List MdnsAddr) :
    addrs.filterMap MdnsAddr.host = (addrs.filterMap MdnsAddr.text).map MdnsRecord.host := by
  rw [List.map_filterMap]
  exact congrArg (List.filterMap · addrs) (funext MdnsAddr.host_eq)

theorem slash_not_mem_host {addr : MdnsAddr} {host : Bytes} (h : addr.host = some host) :
    47 ∉ host := by
  rw [MdnsAddr.host_eq] at h
  obtain ⟨text, htext, rfl⟩ := Option.map_eq_some_iff.mp h
  have hplain : 47 ∉ text := by
    cases addr with
    | v4 addr => exact Option.some.inj htext ▸ addr.plain.1
    | v6 addr => exact Option.some.inj htext ▸ addr.plain
    | other => exact absurd htext nofun
  rw [MdnsRecord.host]
  split_ifs
  · simp [hplain, ascii]
  · exact hplain

theorem tryAddresses_skip {addr : MdnsAddr} (h : addr.host = none) :
    tryAddresses metadata result uriLen serverName (addr :: addrs) =
      tryAddresses metadata result uriLen serverName addrs := by
  rw [tryAddresses, h]

theorem tryAddresses_try {addr : MdnsAddr} {host : Bytes} (h : addr.host = some host) :
    tryAddresses metadata result uriLen serverName (addr :: addrs) =
      if (serviceUri metadata.proto host result.port metadata.path).length < uriLen then
        (some (serviceUri metadata.proto host result.port metadata.path),
          serverNameOf metadata.host result.hostname)
      else tryAddresses metadata result uriLen serverName addrs := by
  rw [tryAddresses, h]
  rfl

/-- The loop ends with the URI of a host with which it fits, the first host if it does with that. -/
theorem tryAddresses_some {uri name : Bytes}
    (h : tryAddresses metadata result uriLen serverName addrs = (some uri, name)) :
    uri.length < uriLen ∧ name = serverNameOf metadata.host result.hostname ∧
      ∃ host ∈ addrs.filterMap MdnsAddr.host,
        uri = serviceUri metadata.proto host result.port metadata.path ∧
          ∀ first, (addrs.filterMap MdnsAddr.host).head? = some first → first = host ∨
            uriLen ≤ (serviceUri metadata.proto first result.port metadata.path).length := by
  induction addrs with
  | nil => exact absurd (Prod.mk.inj h).1 nofun
  | cons addr rest ih =>
      cases hhost : addr.host with
      | none =>
          rw [tryAddresses_skip hhost] at h
          rw [List.filterMap_cons_none hhost]
          exact ih h
      | some host =>
          rw [tryAddresses_try hhost] at h
          rw [List.filterMap_cons_some hhost]
          split_ifs at h with hfits
          · obtain ⟨huri, rfl⟩ := Prod.mk.inj h
            obtain rfl := Option.some.inj huri
            exact ⟨hfits, rfl, host, List.mem_cons_self, rfl, fun first hfirst =>
              Or.inl (Option.some.inj hfirst).symm⟩
          · obtain ⟨hlength, hname, other, hmem, huri, -⟩ := ih h
            refine ⟨hlength, hname, other, List.mem_cons_of_mem _ hmem, huri,
              fun first hfirst => ?_⟩
            obtain rfl := Option.some.inj hfirst
            exact Or.inr (Nat.le_of_not_lt hfits)

theorem tryAddresses_none {name : Bytes}
    (h : tryAddresses metadata result uriLen serverName addrs = (none, name)) :
    name = serverName := by
  induction addrs with
  | nil => exact (Prod.mk.inj h).2.symm
  | cons addr rest ih =>
      cases hhost : addr.host with
      | none => exact ih (tryAddresses_skip hhost ▸ h)
      | some host =>
          rw [tryAddresses_try hhost] at h
          split_ifs at h
          · exact absurd (Prod.mk.inj h).1 (Option.some_ne_none _)
          · exact ih h

theorem tryAddresses_head (hfirst : (addrs.filterMap MdnsAddr.host).head? = some first)
    (hfits : (serviceUri metadata.proto first result.port metadata.path).length < uriLen) :
    tryAddresses metadata result uriLen serverName addrs =
      (some (serviceUri metadata.proto first result.port metadata.path),
        serverNameOf metadata.host result.hostname) := by
  induction addrs with
  | nil => exact absurd hfirst nofun
  | cons addr rest ih =>
      cases hhost : addr.host with
      | none =>
          rw [List.filterMap_cons_none hhost] at hfirst
          rw [tryAddresses_skip hhost, ih hfirst]
      | some host =>
          rw [List.filterMap_cons_some hhost] at hfirst
          obtain rfl := Option.some.inj hfirst
          rw [tryAddresses_try hhost, if_pos hfits]

/-- The test takes the first host. -/
theorem buildUri_eq :
    result.record.buildUri = (result.addr.filterMap MdnsAddr.host).head?.map fun host =>
      (serviceUri result.record.proto host result.port result.record.path,
        result.record.hostOverride) := by
  rw [filterMap_host, List.head?_map, Option.map_map, MdnsRecord.buildUri]
  show _ = Option.map _ result.record.addresses.head?
  cases result.record.addresses with
  | nil => rfl
  | cons addr rest => rfl

end Addresses

section Uri

variable {proto host other path otherPath : Bytes} {port : UInt16}

theorem length_serviceUri :
    (serviceUri proto host port path).length =
      proto.length + 3 + host.length + 1 + (natText port.toNat).length + path.length := by
  simp only [serviceUri, List.length_append]
  rfl

/-- With one scheme and one port, a URI determines host and path. -/
theorem serviceUri_inj (hhost : 47 ∉ host) (hother : 47 ∉ other) (hpath : path.head? = some 47)
    (hotherPath : otherPath.head? = some 47)
    (h : serviceUri proto host port path = serviceUri proto other port otherPath) :
    host = other ∧ path = otherPath := by
  have hport : (47 : UInt8) ∉ natText port.toNat := fun hmem =>
    absurd (isDigit_of_mem_natText hmem) (by decide)
  have hplain {text : Bytes} (htext : 47 ∉ text) :
      47 ∉ text ++ (ascii ":" ++ natText port.toNat) := by
    simp only [List.mem_append, not_or]
    exact ⟨htext, by decide, hport⟩
  simp only [serviceUri, List.append_assoc, List.append_cancel_left_eq] at h
  have hcut := Partition.append_inj_of_not_mem (hplain hhost) (hplain hother) hpath hotherPath
    (by simpa only [List.append_assoc] using h)
  exact ⟨List.append_cancel_right hcut.1, hcut.2⟩

/-- A URI with a supported scheme has this one only. -/
theorem scheme_eq_of_serviceUri {text scheme rest : Bytes} (hws : IsWs proto)
    (hsplit : Partition.split (ascii "://") text = some (scheme, rest))
    (h : serviceUri proto host port path = serviceUri scheme other port otherPath) :
    proto = scheme := by
  have hproto : Partition.split (ascii "://") (proto ++ ascii "://") = some (proto, []) := by
    rcases hws with rfl | rfl <;> decide
  have hleft := Partition.split_append hproto (host ++ ascii ":" ++ natText port.toNat ++ path)
  have hright := Partition.split_append hsplit
    (other ++ ascii ":" ++ natText port.toNat ++ otherPath)
  simp only [serviceUri, List.append_assoc] at h hleft hright
  rw [h, hright] at hleft
  exact (Prod.mk.inj (Option.some.inj hleft)).1.symm

/-- What is not longer than `wss` and gives the same URI is `wss`. -/
theorem eq_wss_of_serviceUri {text : Bytes} (hlength : text.length ≤ 3)
    (h : serviceUri (ascii "wss") host port path = serviceUri text other port otherPath) :
    text = ascii "wss" := by
  have hsep : ascii "://" = [58, 47, 47] := by decide
  have hwss : ascii "wss" = [119, 115, 115] := by decide
  rw [serviceUri, serviceUri, hsep, hwss] at h
  rw [hwss]
  rcases text with _ | ⟨a, _ | ⟨b, _ | ⟨c, _ | ⟨d, rest⟩⟩⟩⟩
  · simp at h
  · simp at h
  · simp at h
  · simp at h ⊢
    exact ⟨h.1.symm, h.2.1.symm, h.2.2.1.symm⟩
  · simp only [List.length_cons] at hlength
    omega

end Uri

/-- When what is built is what the test builds: the scheme of the item `uri` is supported and no
other token follows it, or the item `proto` is a token; the path is short enough, and no other one
follows that of the item `uri`; the name is short enough and that of the last item for it; and the
first address fits. -/
structure MdnsResult.Agreeable (result : MdnsResult) (uriLen : Nat) : Prop where
  scheme : ∀ scheme rest, result.record.uriParts = some (scheme, rest) → IsWs scheme ∧
    ∀ proto, result.entries.lookup (ascii "proto") = some proto →
      Keyed.Precedes (ascii "uri") (ascii "proto") result.entries →
        isTokenValid proto = true → proto = scheme
  token : result.record.uriParts = none →
    ∀ proto, result.entries.lookup (ascii "proto") = some proto → isTokenValid proto = true
  path_length : result.record.path.length < 64
  path_last : ∀ override path, result.record.pathOverride = some override →
    result.entries.lookup (ascii "path") = some path →
      Keyed.Precedes (ascii "uri") (ascii "path") result.entries →
        (MdnsRecord.sanitizePath (some path)).take 63 = override
  name_length : result.record.serverName.length < 64
  name_last : result.NamesAgree
  uri_length : ∀ uri name, result.record.buildUri = some (uri, name) → uri.length < uriLen

/-- The test gives this URI and this name. -/
def MdnsRecord.Gives (record : MdnsRecord) (uri name : Bytes) : Prop :=
  ∃ override, record.buildUri = some (uri, override) ∧ override.getD [] = name

section Agreement

variable {result : MdnsResult} {uriLen : Nat} {serverName uri name : Bytes}

theorem metadata_proto_eq_iff (hws : IsWs result.metadata.proto) :
    result.metadata.proto = result.record.proto ↔
      (∀ scheme rest, result.record.uriParts = some (scheme, rest) → IsWs scheme ∧
        ∀ proto, result.entries.lookup (ascii "proto") = some proto →
          Keyed.Precedes (ascii "uri") (ascii "proto") result.entries →
            isTokenValid proto = true → proto = scheme) ∧
      (result.record.uriParts = none →
        ∀ proto, result.entries.lookup (ascii "proto") = some proto →
          isTokenValid proto = true) := by
  cases hparts : result.record.uriParts with
  | some parts =>
      have hproto : result.record.proto = parts.1 := by rw [MdnsRecord.proto, hparts]
      rw [hproto, metadata_proto_eq_scheme_iff hparts hws]
      refine ⟨fun h => ⟨fun scheme rest hsame => ?_, nofun⟩, fun h => h.1 parts.1 parts.2 rfl⟩
      obtain rfl := Option.some.inj hsame
      exact h
  | none =>
      have hproto : result.record.proto =
          (result.entries.lookup (ascii "proto")).getD (ascii "wss") := by
        rw [MdnsRecord.proto, hparts]
        rfl
      rw [hproto]
      rw [metadata_proto_of_no_uriParts hparts] at hws ⊢
      refine Iff.trans ?_ (and_iff_right nofun).symm
      rw [imp_iff_right rfl]
      cases hfound : result.entries.lookup (ascii "proto") with
      | none => exact iff_of_true rfl nofun
      | some proto =>
          simp only [hfound, Option.elim_some, Option.getD_some, Option.some.injEq,
            forall_eq'] at hws ⊢
          split_ifs at hws ⊢ with hvalid
          · exact iff_of_true hws.strlcpy_eq hvalid
          · exact iff_of_false (fun h => hvalid (h ▸ by decide)) hvalid

theorem metadata_path_eq_iff
    (hshort : ∀ scheme rest, result.record.uriParts = some (scheme, rest) → scheme.length < 8) :
    result.metadata.path = result.record.path ↔ result.record.path.length < 64 ∧
      ∀ override path, result.record.pathOverride = some override →
        result.entries.lookup (ascii "path") = some path →
          Keyed.Precedes (ascii "uri") (ascii "path") result.entries →
            (MdnsRecord.sanitizePath (some path)).take 63 = override := by
  cases hoverride : result.record.pathOverride with
  | none =>
      rw [metadata_path_of_no_override hoverride, List.take_eq_self_iff, ← Nat.lt_succ_iff]
      exact (and_iff_left nofun).symm
  | some override =>
      rw [metadata_path_eq_iff_of_override hoverride hshort]
      refine and_congr_right fun _ => ⟨fun h other path hother => ?_, fun h path =>
        h override path rfl⟩
      obtain rfl := Option.some.inj hother
      exact h path

theorem buildUriFromResult_some (h :
    buildUriFromResult result uriLen serverName = (some uri, name)) :
    IsWs result.metadata.proto ∧
      tryAddresses result.metadata result uriLen serverName result.addr = (some uri, name) := by
  simp only [buildUriFromResult] at h
  split_ifs at h with hempty hscheme
  · exact absurd (Prod.mk.inj h).1 nofun
  · exact absurd (Prod.mk.inj h).1 nofun
  · refine ⟨?_, h⟩
    by_contra hws
    obtain ⟨hnot, hnot'⟩ := not_or.mp hws
    exact hscheme ⟨hnot', hnot⟩

theorem buildUriFromResult_none (h : buildUriFromResult result uriLen serverName = (none, name)) :
    name = serverName := by
  simp only [buildUriFromResult] at h
  split_ifs at h
  · exact (Prod.mk.inj h).2.symm
  · exact (Prod.mk.inj h).2.symm
  · exact tryAddresses_none h

theorem head_metadata_path : result.metadata.path.head? = some 47 := by
  have hsanitized (value : Bytes) : (sanitizePath 64 value).head? = some 47 := by
    rw [sanitizePath_eq, List.head?_take, if_neg (by decide), head_sanitizePath]
  have hchange (path : Bytes) (item : Bytes × Bytes) (h : path.head? = some 47) :
      (changePath path item).head? = some 47 := by
    rw [changePath]
    split_ifs
    · exact hsanitized item.2
    · cases Partition.split (ascii "://") item.2 with
      | none => exact h
      | some parts =>
          simp only
          split_ifs
          · cases strchr parts.2 47 with
            | none => exact h
            | some path => exact hsanitized path
          · exact h
  have hrun (items : List (Bytes × Bytes)) : ∀ path : Bytes, path.head? = some 47 →
      (items.foldl changePath path).head? = some 47 := by
    induction items with
    | nil => exact fun path h => h
    | cons item rest ih => exact fun path h => ih _ (hchange path item h)
  rw [metadata_path]
  exact hrun _ _ rfl

/-- The scheme can be read off the URI: what the test takes for one and the code does not is too
long for it. -/
theorem metadata_proto_eq_of_uri {host first : Bytes} (hws : IsWs result.metadata.proto)
    (hbuilt : serviceUri result.metadata.proto host result.port result.metadata.path =
      serviceUri result.record.proto first result.port result.record.path)
    (hfirst : first = host ∨
      (serviceUri result.metadata.proto host result.port result.metadata.path).length <
        (serviceUri result.metadata.proto first result.port result.metadata.path).length) :
    result.metadata.proto = result.record.proto := by
  cases hparts : result.record.uriParts with
  | some parts =>
      obtain ⟨uri, -, hsplit⟩ := Option.bind_eq_some_iff.mp hparts
      have hproto : result.record.proto = parts.1 := by rw [MdnsRecord.proto, hparts]
      rw [hproto] at hbuilt ⊢
      exact scheme_eq_of_serviceUri hws hsplit hbuilt
  | none =>
      refine (metadata_proto_eq_iff hws).mpr ⟨fun _ _ h => absurd (hparts.symm.trans h) nofun,
        fun _ proto hfound => by_contra fun hinvalid => hinvalid ?_⟩
      have hproto : result.record.proto = proto := by
        rw [MdnsRecord.proto, hparts]
        exact congrArg (Option.getD · _) hfound
      have hdefault : result.metadata.proto = ascii "wss" := by
        rw [metadata_proto_of_no_uriParts hparts, hfound, Option.elim_some, if_neg hinvalid]
      have hpath : result.metadata.path.length ≤ result.record.path.length := by
        have hnone : result.record.pathOverride = none := by rw [pathOverride_eq, hparts]; rfl
        rw [metadata_path_of_no_override hnone]
        exact List.length_take_le' 63 _
      have hshort : proto.length ≤ 3 := by
        have hlength := congrArg List.length hbuilt
        rw [hdefault, hproto, length_serviceUri, length_serviceUri,
          show (ascii "wss").length = 3 from rfl] at hlength
        rcases hfirst with rfl | hfirst
        · omega
        · rw [length_serviceUri, length_serviceUri] at hfirst
          omega
      rw [hdefault, hproto] at hbuilt
      rw [eq_wss_of_serviceUri hshort hbuilt]
      decide

/-- What is built is what the test builds exactly if the record is agreeable. -/
theorem gives_iff_agreeable (hbuilt :
    buildUriFromResult result uriLen serverName = (some uri, name)) :
    result.record.Gives uri name ↔ result.Agreeable uriLen := by
  obtain ⟨hws, htried⟩ := buildUriFromResult_some hbuilt
  obtain ⟨hlength, rfl, host, hmem, huri, hskipped⟩ := tryAddresses_some htried
  have hname : serverNameOf result.metadata.host result.hostname = result.record.serverName ↔ _ :=
    serverName_eq_iff
  constructor
  · rintro ⟨override, hgiven, hsameName⟩
    obtain ⟨first, hfirst, hsame⟩ := Option.map_eq_some_iff.mp (buildUri_eq.symm.trans hgiven)
    obtain ⟨hsameUri, rfl⟩ := Prod.mk.inj hsame
    subst huri
    have hproto := metadata_proto_eq_of_uri hws hsameUri.symm
      ((hskipped first hfirst).imp_right fun hlong => Nat.lt_of_lt_of_le hlength hlong)
    obtain ⟨hscheme, htoken⟩ := (metadata_proto_eq_iff hws).mp hproto
    obtain ⟨addr, -, haddr⟩ := List.mem_filterMap.mp hmem
    obtain ⟨firstAddr, -, hfirstAddr⟩ :=
      List.mem_filterMap.mp (List.mem_of_mem_head? (Option.mem_def.mpr hfirst))
    rw [← hproto] at hsameUri
    obtain ⟨-, hpath⟩ := serviceUri_inj (slash_not_mem_host hfirstAddr) (slash_not_mem_host haddr)
      (head_sanitizePath _) head_metadata_path hsameUri
    obtain ⟨hpathLength, hpathLast⟩ := (metadata_path_eq_iff fun scheme rest hparts =>
      (hscheme scheme rest hparts).1.token.1).mp hpath.symm
    obtain ⟨hnameLength, hnameLast⟩ := hname.mp hsameName.symm
    refine ⟨hscheme, htoken, hpathLength, hpathLast, hnameLength, hnameLast,
      fun other _ hother => ?_⟩
    obtain ⟨rfl, -⟩ := Prod.mk.inj (Option.some.inj (hgiven.symm.trans hother))
    exact hlength
  · intro h
    have hproto := (metadata_proto_eq_iff hws).mpr ⟨h.scheme, h.token⟩
    have hpath := (metadata_path_eq_iff fun scheme rest hparts =>
      (h.scheme scheme rest hparts).1.token.1).mpr ⟨h.path_length, h.path_last⟩
    obtain ⟨first, hfirst⟩ : ∃ first, (result.addr.filterMap MdnsAddr.host).head? = some first := by
      cases hall : result.addr.filterMap MdnsAddr.host with
      | nil => exact absurd (hall ▸ hmem) List.not_mem_nil
      | cons first rest => exact ⟨first, rfl⟩
    have hgiven : result.record.buildUri =
        some (serviceUri result.metadata.proto first result.port result.metadata.path,
          result.record.hostOverride) := by
      rw [buildUri_eq, hfirst, hproto, hpath]
      rfl
    have hhead := @tryAddresses_head result result.metadata uriLen serverName result.addr
      first hfirst
      (h.uri_length _ _ hgiven)
    obtain ⟨hsame, -⟩ := Prod.mk.inj (htried.symm.trans hhead)
    obtain rfl := Option.some.inj hsame
    exact ⟨_, hgiven, (hname.mpr ⟨h.name_length, h.name_last⟩).symm⟩

/-- The same record with its items in another order. -/
structure MdnsResult.Permuted (result other : MdnsResult) : Prop where
  txt : result.txt.Perm other.txt
  addr : result.addr = other.addr
  port : result.port = other.port
  hostname : result.hostname = other.hostname

/-- The test builds the same whatever the order of the items is. -/
theorem MdnsResult.Permuted.buildUri_eq {other : MdnsResult} (h : result.Permuted other) :
    result.record.buildUri = other.record.buildUri := by
  have hlookup (key : Bytes) : result.record.txt.lookup key = other.record.txt.lookup key :=
    Keyed.lookup_perm (h.txt.filterMap _) result.entries_nodup
  have haddresses : result.record.addresses = other.record.addresses :=
    congrArg (List.filterMap MdnsAddr.text) h.addr
  have hport : result.record.port = other.record.port := h.port
  have hhostname : result.record.hostname = other.record.hostname := h.hostname
  simp only [MdnsRecord.buildUri, MdnsRecord.proto, MdnsRecord.path, MdnsRecord.pathOverride,
    MdnsRecord.uriParts, MdnsRecord.hostOverride, hlookup, haddresses, hport, hhostname]

theorem MdnsResult.Permuted.gives_unique {other : MdnsResult} {otherUri otherName : Bytes}
    (h : result.Permuted other) (hgives : result.record.Gives uri name)
    (hother : other.record.Gives otherUri otherName) : otherUri = uri ∧ otherName = name := by
  obtain ⟨override, hbuilt, rfl⟩ := hgives
  obtain ⟨otherOverride, hotherBuilt, rfl⟩ := hother
  rw [h.buildUri_eq, hotherBuilt] at hbuilt
  obtain ⟨rfl, rfl⟩ := Prod.mk.inj (Option.some.inj hbuilt)
  exact ⟨rfl, rfl⟩

end Agreement

/-- A record that is not taken leaves the server name as it was; what is built of one that is taken
is what the test builds of it, exactly if the record is agreeable; and then the order of its items
does not matter. -/
theorem build_uri_agrees_iff (result : MdnsResult) (uriLen : Nat) (serverName : Bytes) :
    (∀ name, buildUriFromResult result uriLen serverName = (none, name) → name = serverName) ∧
      ∀ uri name, buildUriFromResult result uriLen serverName = (some uri, name) →
        (result.record.Gives uri name ↔ result.Agreeable uriLen) ∧
          ∀ other otherUri otherName, result.Permuted other →
            buildUriFromResult other uriLen serverName = (some otherUri, otherName) →
              result.Agreeable uriLen → other.Agreeable uriLen →
                otherUri = uri ∧ otherName = name := by
  refine ⟨fun name => buildUriFromResult_none, fun uri name hbuilt => ?_⟩
  refine ⟨gives_iff_agreeable hbuilt, fun other otherUri otherName hperm hother h hotherAgrees =>
    ?_⟩
  exact hperm.gives_unique ((gives_iff_agreeable hbuilt).mpr h)
    ((gives_iff_agreeable hother).mpr hotherAgrees)

/-- A record whose item `path` comes behind its item `uri`. -/
def laterPathResult : MdnsResult where
  hostname := none
  port := 80
  txt := [(ascii "uri", some (ascii "ws://h/a")), (ascii "path", some (ascii "/b"))]
  addr := [.v4 ⟨ascii "10.0.0.1", by decide, by decide⟩]
  keys_nodup := by decide

/-- The later path is taken, and not the one of the item `uri`. -/
theorem later_path_taken :
    ¬ ∀ uri name, buildUriFromResult laterPathResult 128 [] = (some uri, name) →
      laterPathResult.record.Gives uri name := by
  intro h
  obtain ⟨override, hgiven, -⟩ := h (ascii "ws://10.0.0.1:80/b") [] (by decide +kernel)
  have hpath : laterPathResult.record.buildUri =
      some (ascii "ws://10.0.0.1:80/a", none) := by decide +kernel
  rw [hpath] at hgiven
  exact absurd (Prod.mk.inj (Option.some.inj hgiven)).1 (by decide)

end SensorHmi
