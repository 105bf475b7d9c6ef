import SearchStore.Proofs.Host.Readable
import SearchStore.Proofs.Host.Url
import SearchStore.Proofs.Text.Lowering
namespace SearchStore

theorem Text.occursIn_append (part before after : List Char) : occursIn part (before ++ (part ++ after)) = true := by
  have starts (c : Char) (rest : List Char) (same : part ++ after = c :: rest) :
      part.isPrefixOf (c :: rest) = true := by
    rw [← same]
    exact List.isPrefixOf_iff_prefix.mpr (List.prefix_append part after)
  induction before with
  | nil =>
    rw [List.nil_append]
    cases whole : part ++ after with
    | nil => rw [(List.append_eq_nil_iff.mp whole).1]; rfl
    | cons c rest => exact Bool.or_eq_true_iff.mpr (.inl (starts c rest whole))
  | cons c rest ih => exact Bool.or_eq_true_iff.mpr (.inr ih)

namespace Percent

theorem escape_plain {byte : Nat} (small : byte < 256) : Url.Plain (escape byte) := by
  have digits : ∀ n < 16, Url.isPlain (hexDigit n) = true := by decide
  intro c member
  simp only [escape, List.mem_cons, List.not_mem_nil, or_false] at member
  rcases member with rfl | rfl | rfl
  · rfl
  · exact digits _ (by omega)
  · exact digits _ (by omega)

theorem encode_plain (s : String) : Url.Plain (encode s).toList := by
  unfold encode
  rw [String.toList_ofList]
  intro c member
  obtain ⟨source, -, member⟩ := List.mem_flatMap.mp member
  unfold encodeChar at member
  split at member
  · rename_i unreserved
    cases List.mem_singleton.mp member
    exact Bool.or_eq_true_iff.mpr (.inl unreserved)
  · obtain ⟨byte, among, member⟩ := List.mem_flatMap.mp member
    exact escape_plain (utf8_small source byte among) c member

theorem encode_ne_empty {s : String} (named : s ≠ "") : encode s ≠ "" := by
  intro empty
  apply named
  rw [← decode_encode s, empty]
  rfl

end Percent

def Entries.ofParts (parts : List (String × Option Value)) : Entries :=
  ofFields (parts.filterMap fun part => part.2.map (part.1, ·))

theorem Entries.get?_ofParts_nil (name : String) : get? (ofParts []) name = none := rfl

theorem Entries.get?_ofParts_cons (key name : String) (v : Option Value) (rest : List (String × Option Value)) :
    get? (ofParts ((key, v) :: rest)) name =
      if key = name then v.or (get? (ofParts rest) name) else get? (ofParts rest) name := by
  cases v with
  | none => simp [ofParts]
  | some v => simp [ofParts, get?_ofFields_cons]

namespace Descriptor
open Reading

def headersOf (headers : Option (List (String × String))) : Value :=
  headers.elim .null fun fields => .map (textFields fields)

theorem read_valid {fields : Entries} {d : Descriptor}
    (protocol : field fields "protocol" text "http" = .valid d.protocol)
    (host : field fields "host" text "localhost" = .valid d.host)
    (port : field fields "port" whole 80 = .valid d.port)
    (path : field fields "path" text "/" = .valid d.path)
    (auth : field fields "auth" (optional text) none = .valid d.auth)
    (headers : field fields "headers" (optional (mappingOf text)) none = .valid d.headers) :
    read fields = .valid d := by
  unfold Descriptor.read
  rw [protocol, host, port, path, auth, headers]
  rfl

def shown (d : Descriptor) : Entries := Entries.ofFields
  [("protocol", .str d.protocol), ("host", .str d.host), ("port", .int d.port), ("path", .str d.path),
    ("auth", d.auth.elim .null .str), ("headers", headersOf d.headers)]

theorem read_shown (d : Descriptor) : read (shown d) = .valid d := by
  apply read_valid
  · exact (field_given rfl).mpr rfl
  · exact (field_given rfl).mpr rfl
  · exact (field_given rfl).mpr rfl
  · exact (field_given rfl).mpr rfl
  · refine (field_given rfl).mpr ?_
    cases d.auth <;> rfl
  · refine (field_given rfl).mpr ?_
    cases d.headers with
    | none => rfl
    | some fields => exact read_textFields fields

theorem hosts_map {α : Type} {defaults : NodeDefaults} {write : α → Value} {host : α → Entries} (nodes : List α)
    (each : ∀ node, hostOf defaults (write node) = .ok (host node)) :
    hosts (.list (nodes.map write)) defaults = .ok (nodes.map host) := by
  apply hosts_ok_iff.mpr
  rw [List.forall₂_map_left_iff, List.forall₂_map_right_iff]
  exact List.forall₂_same.mpr fun node _ => each node

end Descriptor

structure Login where
  user : String
  password : String
  named : user ≠ ""

def isHostChar (c : Char) : Bool := ('a' ≤ c && c ≤ 'z') || c.isDigit || c = '.' || c = '-'

-- Where a node is, whatever way it is written.
structure Endpoint where
  secure : Bool
  host : String
  port : Option Nat
  path : String
  login : Option Login
  named : host ≠ ""
  spelled : ∀ c ∈ host.toList, isHostChar c = true
  fits : ∀ n ∈ port, 1 ≤ n ∧ n ≤ 65535
  isPath : Url.IsPath path.toList

namespace Endpoint
open Descriptor

def protocol (e : Endpoint) : String := if e.secure then "https" else "http"

def auth (e : Endpoint) : Option String := e.login.map fun login => login.user ++ ":" ++ login.password

def url (e : Endpoint) : String :=
  e.protocol ++ "://" ++
    (e.login.elim "" fun login => Percent.encode login.user ++ ":" ++ Percent.encode login.password ++ "@") ++
    e.host ++ (e.port.elim "" fun n => ":" ++ n.repr) ++ e.path

def fields (e : Endpoint) : Entries := Entries.ofParts
  [("protocol", some (.str e.protocol)), ("host", some (.str e.host)), ("port", e.port.map fun n : Nat => .int n),
    ("path", if e.path = "" then none else some (.str e.path)), ("auth", e.auth.map .str)]

def parts (e : Endpoint) : Url.Authority where
  login := e.login.map fun login => ((Percent.encode login.user).toList, (Percent.encode login.password).toList)
  host := e.host.toList
  port := e.port.map (Nat.toDigits 10)

theorem url_parts (e : Endpoint) :
    e.url = String.ofList (e.protocol.toList ++ ':' :: '/' :: '/' :: (e.parts.text ++ e.path.toList)) := by
  apply String.toList_injective
  obtain ⟨secure, host, port, path, login, _, _, _, _⟩ := e
  cases login with
  | none => cases port <;> simp [url, parts, Url.Authority.text, Url.Authority.about, Url.Authority.place]
  | some login =>
    cases port <;>
      simp [url, parts, Url.Authority.text, Url.Authority.about, Url.Authority.place]

theorem isHostChar_unreserved {c : Char} (spelled : isHostChar c = true) : Percent.isUnreserved c = true := by
  simp only [isHostChar, Bool.or_eq_true, Bool.and_eq_true] at spelled
  rcases spelled with ((letter | digit) | dot) | hyphen
  · simp [Percent.isUnreserved, Url.isLetter, letter]
  · simp [Percent.isUnreserved, digit]
  · simp [Percent.isUnreserved, of_decide_eq_true dot]
  · simp [Percent.isUnreserved, of_decide_eq_true hyphen]

theorem isHostChar_tested : ∀ n < 128, isHostChar (Char.ofNat n) = true → Text.Lowered (Char.ofNat n) := by
  decide +kernel

theorem isHostChar_lowered {c : Char} (spelled : isHostChar c = true) : Text.Lowered c := by
  have tested := isHostChar_tested c.toNat (Percent.isUnreserved_ascii (isHostChar_unreserved spelled))
  rw [Char.ofNat_toNat] at tested
  exact tested spelled

theorem lowerHost_host (e : Endpoint) : Url.lowerHost e.host.toList = e.host := by
  have absent : '%' ∉ e.host.toList := fun member => by cases e.spelled '%' member
  unfold Url.lowerHost
  rw [Address.cutAt_absent absent]
  change Text.lower _ ++ "" = _
  unfold Text.lower
  rw [String.toList_ofList, Text.lowerFrom_lowered fun c member => isHostChar_lowered (e.spelled c member)]
  simp

theorem parts_plain (e : Endpoint) : e.parts.Plain where
  user := by
    intro login member
    obtain ⟨login, -, rfl⟩ := Option.map_eq_some_iff.mp member
    dsimp only
    exact Percent.encode_plain login.user
  password := by
    intro login member
    obtain ⟨login, -, rfl⟩ := Option.map_eq_some_iff.mp member
    dsimp only
    exact Percent.encode_plain login.password
  host := fun c member => Bool.or_eq_true_iff.mpr (.inl (isHostChar_unreserved (e.spelled c member)))
  port := by
    intro digits member
    obtain ⟨n, -, rfl⟩ := Option.map_eq_some_iff.mp member
    intro c member
    have digit := Nat.isDigit_of_mem_toDigits (by decide) (by decide) member
    simp [Url.isPlain, Percent.isUnreserved, digit]

theorem nonempty_toList {s : String} (named : s ≠ "") : Url.nonempty s.toList = some s.toList := by
  apply if_neg
  intro empty
  exact named (String.toList_eq_nil_iff.mp (List.isEmpty_iff.mp empty))

def split (e : Endpoint) : Url where
  scheme := some e.protocol
  user := e.login.map fun login => Percent.encode login.user
  password := e.login.map fun login => Percent.encode login.password
  hostname := some e.host
  port := e.port.map (Nat.toDigits 10)
  path := e.path

theorem read?_url (e : Endpoint) : Url.read? e.url = some e.split := by
  have letter : e.protocol.toList.head?.any Url.isLetter = true := by
    unfold protocol
    cases e.secure <;> rfl
  have all : e.protocol.toList.all Url.isSchemeChar = true := by
    unfold protocol
    cases e.secure <;> rfl
  have lowered : String.ofList (Literal.lowercaseAscii e.protocol.toList) = e.protocol := by
    unfold protocol
    cases e.secure <;> rfl
  have user : (Url.nonempty ((e.parts.login.map Prod.fst).getD [])).map String.ofList =
      e.login.map fun login => Percent.encode login.user := by
    unfold parts
    cases e.login with
    | none => rfl
    | some login => simp [nonempty_toList (Percent.encode_ne_empty login.named)]
  have password : (e.parts.login.map Prod.snd).map String.ofList =
      e.login.map fun login => Percent.encode login.password := by
    unfold parts
    cases e.login with
    | none => rfl
    | some login => simp
  have host : (Url.nonempty e.parts.host).map Url.lowerHost = some e.host := by
    change (Url.nonempty e.host.toList).map Url.lowerHost = _
    rw [nonempty_toList e.named, Option.map_some, lowerHost_host]
  have port : e.parts.port.bind Url.nonempty = e.port.map (Nat.toDigits 10) := by
    unfold parts
    cases e.port with
    | none => rfl
    | some n => exact if_neg (by simp)
  rw [url_parts, Url.read?_parts letter all e.parts_plain e.isPath, lowered, user, password, host, port,
    String.ofList_toList]
  rfl

theorem hasScheme_url (e : Endpoint) : hasScheme e.url = true := by
  unfold hasScheme
  simp only [url_parts, String.toList_ofList]
  exact Text.occursIn_append "://".toList e.protocol.toList _

theorem port?_split (e : Endpoint) : e.split.port? = some e.port := by
  unfold Url.port? split
  cases given : e.port with
  | none => rfl
  | some n =>
    have digits : (Nat.toDigits 10 n).all Char.isDigit = true :=
      List.all_eq_true.mpr fun c member => Nat.isDigit_of_mem_toDigits (by decide) (by decide) member
    have folded : Literal.ofDigitChars (Nat.toDigits 10 n) = Nat.ofDigitChars 10 (Nat.toDigits 10 n) 0 :=
      List.foldl_map
    have value : Literal.ofDigitChars (Nat.toDigits 10 n) = n := by rw [folded, Nat.ofDigitChars_ten_toDigits]
    simp [digits, value, (e.fits n given).2]

theorem authOf_split (e : Endpoint) (defaults : NodeDefaults) :
    authOf e.split defaults = e.auth.or defaults.credentials := by
  unfold authOf split auth
  cases e.login with
  | none => rfl
  | some login => simp [Percent.decode_encode]

def descriptor (e : Endpoint) (defaults : NodeDefaults) (headers : Option (List (String × String))) : Descriptor where
  protocol := e.protocol
  host := e.host
  port := e.port.elim (defaultPort e.protocol) Int.ofNat
  path := if e.path = "" then "/" else e.path
  auth := e.auth.or defaults.credentials
  headers := headers.filter fun fields => !fields.isEmpty

section Fields
variable (e : Endpoint)

theorem protocol_fields : Entries.get? e.fields "protocol" = some (.str e.protocol) := by
  simp [fields, Entries.get?_ofParts_cons, Entries.get?_ofParts_nil]

theorem host_fields : Entries.get? e.fields "host" = some (.str e.host) := by
  simp [fields, Entries.get?_ofParts_cons, Entries.get?_ofParts_nil]

theorem port_fields : Entries.get? e.fields "port" = e.port.map fun n : Nat => .int n := by
  simp [fields, Entries.get?_ofParts_cons, Entries.get?_ofParts_nil]

theorem path_fields : Entries.get? e.fields "path" = if e.path = "" then none else some (.str e.path) := by
  simp [fields, Entries.get?_ofParts_cons, Entries.get?_ofParts_nil]

theorem auth_fields : Entries.get? e.fields "auth" = e.auth.map .str := by
  simp [fields, Entries.get?_ofParts_cons, Entries.get?_ofParts_nil]

theorem headers_fields : Entries.get? e.fields "headers" = none := by
  simp [fields, Entries.get?_ofParts_cons, Entries.get?_ofParts_nil]

end Fields

section Reading
open Reading
variable {defaults : NodeDefaults} {headers : Option (List (String × String))}

theorem urlFields_split (e : Endpoint) (given : defaults.headers = headersOf headers) :
    urlFields e.split defaults = .ok (shown (e.descriptor defaults headers)) := by
  have scheme : e.split.scheme.getD "http" = e.protocol := rfl
  have path : (if e.split.path.isEmpty then "/" else e.split.path) = if e.path = "" then "/" else e.path := by
    simp [split]
  unfold urlFields descriptor
  simp only [port?_split, authOf_split, scheme, path, given]
  -- No port is told from port 0, which no address has.
  cases located : e.port with
  | none => rcases headers with _ | _ | _ <;> rfl
  | some n =>
    cases n with
    | zero => exact absurd (e.fits 0 located).1 (by decide)
    | succ n => rcases headers with _ | _ | _ <;> rfl

theorem ofUrl_url (e : Endpoint) (given : defaults.headers = headersOf headers) :
    ofUrl (.str e.url) defaults = .ok (e.descriptor defaults headers) := by
  have whole : addressed e.url = e.url := if_pos e.hasScheme_url
  have found : Url.read? (addressed e.url) = some e.split := by rw [whole, read?_url]
  rw [ofUrl_made found (e.urlFields_split given), read_shown]
  rfl

theorem protocolIn_fields (e : Endpoint) : protocolIn e.fields = e.protocol := by
  unfold protocolIn Entries.get
  rw [protocol_fields]
  unfold protocol
  cases e.secure <;> rfl

theorem auth_truthy (e : Endpoint) : (Entries.get e.fields "auth").truthy = e.auth.isSome := by
  unfold Entries.get
  rw [auth_fields]
  unfold auth
  cases e.login with
  | none => rfl
  | some login => simp [Value.truthy]

theorem read_completed (e : Endpoint) (given : defaults.headers = headersOf headers) :
    read (completed defaults e.fields) = .valid (e.descriptor defaults headers) := by
  have kept {name : String} (auth : "auth" ≠ name) (headers : "headers" ≠ name) (protocol : "protocol" ≠ name)
      (port : "port" ≠ name) :
      Entries.get? (completed defaults e.fields) name = Entries.get? e.fields name :=
    (get?_completed _ auth headers).trans (get?_located _ protocol port)
  apply read_valid
  case protocol =>
    have found := protocol_completed defaults e.fields
    rw [protocolIn_fields] at found
    exact (field_given found).mpr rfl
  case host =>
    have found := (kept (by decide) (by decide) (by decide) (by decide)).trans e.host_fields
    exact (field_given found).mpr rfl
  case port =>
    have found := port_completed defaults e.fields
    rw [protocolIn_fields, port_fields] at found
    apply (field_given found).mpr
    unfold descriptor
    cases e.port <;> rfl
  case path =>
    have found := (kept (by decide) (by decide) (by decide) (by decide)).trans e.path_fields
    unfold descriptor
    by_cases empty : e.path = ""
    · rw [if_pos empty] at found ⊢
      exact (field_missing found).mpr rfl
    · rw [if_neg empty] at found ⊢
      exact (field_given found).mpr rfl
  case auth =>
    have found := auth_completed defaults e.fields
    rw [auth_truthy, auth_fields] at found
    unfold descriptor
    cases own : e.auth with
    | some auth =>
      rw [own] at found
      exact (field_given found).mpr rfl
    | none =>
      rw [own] at found
      cases configured : defaults.credentials with
      | none =>
        rw [configured] at found
        exact (field_missing found).mpr rfl
      | some auth =>
        rw [configured] at found
        exact (field_given found).mpr rfl
  case headers =>
    have absent : Entries.get e.fields "headers" = .null := by
      unfold Entries.get
      rw [headers_fields]
      rfl
    have found := headers_completed defaults e.fields
    rw [absent, headers_fields, given] at found
    cases headers with
    | none => exact (field_missing found).mpr rfl
    | some fields =>
      cases fields with
      | nil => exact (field_missing found).mpr rfl
      | cons first rest =>
        apply (field_given found).mpr
        exact read_textFields (first :: rest)

theorem ofMapping_fields (e : Endpoint) (given : defaults.headers = headersOf headers) :
    ofMapping e.fields defaults = .ok (e.descriptor defaults headers) := by
  have mapped : defaults.headers.truthy = true → ∃ entries, defaults.headers = .map entries := by
    rw [given]
    cases headers with
    | none => exact nofun
    | some fields => exact fun _ => ⟨_, rfl⟩
  unfold ofMapping
  rw [mappingFields_eq mapped]
  simp only [read_completed e given]
  rfl

theorem describes_fields (e : Endpoint) : describes e.fields = true := by
  have has : Entries.has e.fields "protocol" = true := by
    unfold Entries.has
    rw [protocol_fields]
    rfl
  unfold describes
  rw [List.any_cons, has]
  rfl

theorem hostOf_url (e : Endpoint) (given : defaults.headers = headersOf headers) :
    hostOf defaults (.str e.url) = .ok (e.descriptor defaults headers).toHost := by
  change (ofUrl (.str e.url) defaults).map toHost = _
  rw [ofUrl_url e given]
  rfl

theorem hostOf_fields (e : Endpoint) (given : defaults.headers = headersOf headers) :
    hostOf defaults (.map e.fields) = .ok (e.descriptor defaults headers).toHost := by
  change (if describes e.fields then (ofMapping e.fields defaults).map toHost
    else .ok e.fields) = _
  rw [if_pos e.describes_fields, ofMapping_fields e given]
  rfl

end Reading

-- Whatever credentials and headers are configured, nodes that are written as URLs are the same hosts as the nodes
-- that are written as mappings, and there is nothing to refuse in them.
theorem hosts_spellings (username password : Value) (headers : Option (List (String × String)))
    (endpoints : List Endpoint) :
    let defaults : NodeDefaults := ⟨username, password, headersOf headers⟩
    hosts (.list (endpoints.map fun e => .str e.url)) defaults =
        hosts (.list (endpoints.map fun e => .map e.fields)) defaults ∧
      hosts (.list (endpoints.map fun e => .map e.fields)) defaults =
        .ok (endpoints.map fun e => (e.descriptor defaults headers).toHost) := by
  intro defaults
  have given : defaults.headers = headersOf headers := rfl
  have urls := hosts_map endpoints fun e => hostOf_url e given
  have mappings := hosts_map endpoints fun e => hostOf_fields e given
  exact ⟨urls.trans mappings.symm, mappings⟩

theorem hosts_spellings_search :
    let defaults : NodeDefaults := ⟨.str "admin", .str "secret", headersOf (some [("X-Tenant", "blue")])⟩
    let url := "https://j%3A%C3%B6:@es-1.local:9243/search"
    let fields := Entries.ofFields [("protocol", .str "https"), ("host", .str "es-1.local"), ("port", .int 9243),
      ("path", .str "/search"), ("auth", .str "j:ö:")]
    let host := Entries.ofFields [("host", .str "es-1.local"), ("port", .int 9243), ("use_ssl", .bool true),
      ("url_prefix", .str "/search"), ("http_auth", .str "j:ö:"),
      ("headers", .map (Entries.ofFields [("X-Tenant", .str "blue")]))]
    (∃ e : Endpoint, e.url = url ∧ e.fields = fields) ∧
      hosts (.list [.str url]) defaults = hosts (.list [.map fields]) defaults ∧
      hosts (.list [.map fields]) defaults = .ok [host] := by
  intro defaults url fields host
  obtain ⟨e, spelled, mapped, hosted⟩ : ∃ e : Endpoint, e.url = url ∧ e.fields = fields ∧
      (e.descriptor defaults (some [("X-Tenant", "blue")])).toHost = host := by
    refine ⟨⟨true, "es-1.local", some 9243, "/search", some ⟨"j:ö", "", by decide⟩, by decide,
      by simp [isHostChar], by simp, ⟨by simp, by simp [Url.isDropped]⟩⟩, ?_, ?_, ?_⟩
    all_goals rfl
  obtain ⟨same, read⟩ := hosts_spellings (.str "admin") (.str "secret") (some [("X-Tenant", "blue")]) [e]
  rw [List.map_singleton, List.map_singleton, spelled, mapped] at same
  rw [List.map_singleton, List.map_singleton, mapped, hosted] at read
  exact ⟨⟨e, spelled, mapped⟩, same, read⟩

end Endpoint
end SearchStore
