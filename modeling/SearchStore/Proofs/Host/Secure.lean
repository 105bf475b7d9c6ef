import SearchStore.Proofs.Host.Readable
import SearchStore.Proofs.Host.Url
namespace SearchStore
open Reading

namespace Descriptor

def namedScheme (text : String) : Option (List Char) :=
  if hasScheme text then
    match Address.cutAt ':' (Url.cleaned text) with
    | (scheme, some _) => some scheme
    | (_, none) => none
  else none

-- The protocol that an entry names. Trailing colons of a mapping's protocol do not count.
def namedProtocol : Value → Option (List Char)
  | .str text => namedScheme text
  | .map fields => if describes fields then some (protocolIn fields).toList else none
  | _ => none

def givesPort : Value → Bool
  | .str text => (Url.read? (addressed text)).any fun url => url.port.isSome
  | .map fields => Entries.has fields "port"
  | _ => false

def IsHttps (protocol : List Char) : Prop := Literal.lowercaseAscii protocol = "https".toList

theorem isHttps_letters {protocol : List Char} (https : IsHttps protocol) :
    ∀ c ∈ protocol, Url.isLetter c = true := by
  have letters : ∀ c ∈ "https".toList, Url.isLetter c = true := by simp [Url.isLetter]
  intro c member
  have lowered : c.toLower ∈ Literal.lowercaseAscii protocol := List.mem_map_of_mem member
  rw [https] at lowered
  exact Url.isLetter_toLower (letters c.toLower lowered)

theorem isHttps_named {protocol : List Char} (https : IsHttps protocol) : protocol ≠ [] := by
  rintro rfl
  cases https

theorem read_fields {fields : Entries} {d : Descriptor} (valid : read fields = .valid d) :
    field fields "protocol" text "http" = .valid d.protocol ∧ field fields "port" whole 80 = .valid d.port := by
  have given : (read fields).Gives (· = d) := Verdict.gives_eq.mpr valid
  unfold read at given
  simp only [Verdict.gives_seq, Verdict.gives_map] at given
  obtain ⟨protocol, named, host, -, port, located, path, -, auth, -, headers, -, rfl⟩ := given
  exact ⟨named, located⟩

theorem field_text {fields : Entries} {name fallback s t : String} (given : Entries.get? fields name = some (.str s))
    (read : field fields name text fallback = .valid t) : t = s := by
  have same : text (.str s) = .valid t := (field_given given).mp read
  exact (Verdict.valid.inj same).symm

theorem field_whole {fields : Entries} {name : String} {fallback n m : Int}
    (given : Entries.get? fields name = some (.int n)) (read : field fields name whole fallback = .valid m) :
    m = n := by
  have same : whole (.int n) = .valid m := (field_given given).mp read
  exact (Verdict.valid.inj same).symm

theorem toHost_secured (d : Descriptor) :
    Entries.get? d.toHost "use_ssl" = some (.bool (d.protocol == "https")) ∧
      Entries.get? d.toHost "port" = some (.int d.port) := ⟨rfl, rfl⟩

theorem map_toHost_ok {made : Except Failure Descriptor} {host : Entries} (turned : made.map toHost = .ok host) :
    ∃ d, made = .ok d ∧ d.toHost = host := by
  cases made with
  | error failure => cases turned
  | ok d => exact ⟨d, rfl, Except.ok.inj turned⟩

section Defaults
variable {defaults : NodeDefaults} {d : Descriptor}

theorem urlFields_ok {url : Url} {fields : Entries} (made : urlFields url defaults = .ok fields) :
    Entries.get? fields "protocol" = some (.str (url.scheme.getD "http")) ∧
      (url.port = none → Entries.get? fields "port" = some (.int (defaultPort (url.scheme.getD "http")))) := by
  unfold urlFields at made
  dsimp only at made
  split at made
  · cases made
  · rename_i port located
    have plain : url.port = none → port = none := by
      intro absent
      unfold Url.port? at located
      rw [absent] at located
      exact (Option.some.inj located).symm
    cases present : defaults.headers.truthy with
    | false =>
      rw [present] at made
      cases made
      refine ⟨rfl, fun absent => ?_⟩
      rw [plain absent]
      rfl
    | true =>
      rw [present] at made
      cases read : defaults.headers.toEntries with
      | error fault =>
        rw [read] at made
        cases made
      | ok entries =>
        rw [read] at made
        cases made
        refine ⟨rfl, fun absent => ?_⟩
        rw [plain absent]
        rfl

theorem ofUrl_ok {address : String} (turned : ofUrl (.str address) defaults = .ok d) :
    ∃ url, Url.read? (addressed address) = some url ∧ d.protocol = url.scheme.getD "http" ∧
      (url.port = none → d.port = defaultPort d.protocol) := by
  cases found : Url.read? (addressed address) with
  | none =>
    rw [ofUrl_unread found] at turned
    cases turned
  | some url =>
    cases made : urlFields url defaults with
    | error fault =>
      rw [ofUrl_unmade found made] at turned
      cases turned
    | ok fields =>
      rw [ofUrl_made found made] at turned
      obtain ⟨protocol, port⟩ := read_fields (Verdict.result_ok_iff.mp turned)
      obtain ⟨scheme, default⟩ := urlFields_ok made
      have same := field_text scheme protocol
      refine ⟨url, rfl, same, fun absent => ?_⟩
      rw [same]
      exact field_whole (default absent) port

theorem mappingFields_ok {fields made : Entries} (completed : mappingFields fields defaults = .ok made) :
    Entries.get? made "protocol" = some (.str (protocolIn fields)) ∧
      Entries.get? made "port" = some ((Entries.get? fields "port").getD (.int (defaultPort (protocolIn fields)))) := by
  have kept {name : String} (auth : "auth" ≠ name) (headers : "headers" ≠ name) :
      Entries.get? made name = Entries.get? (located fields) name := by
    change (if !(Entries.get (authorised defaults (located fields)) "headers").truthy && defaults.headers.truthy then
      defaults.headers.toEntries.map fun entries =>
        Entries.set (authorised defaults (located fields)) "headers" (.map entries)
      else .ok (authorised defaults (located fields))) = _ at completed
    split at completed
    · cases read : defaults.headers.toEntries with
      | error fault =>
        rw [read] at completed
        cases completed
      | ok entries =>
        rw [read] at completed
        cases completed
        rw [Entries.get?_set_of_ne headers, get?_authorised _ auth]
    · cases completed
      exact get?_authorised _ auth
  exact ⟨(kept (by decide) (by decide)).trans (protocol_located fields),
    (kept (by decide) (by decide)).trans (port_located fields)⟩

theorem ofMapping_ok {fields : Entries} (turned : ofMapping fields defaults = .ok d) :
    d.protocol = protocolIn fields ∧ (Entries.has fields "port" = false → d.port = defaultPort d.protocol) := by
  unfold ofMapping at turned
  split at turned
  · rename_i made completed
    obtain ⟨protocol, port⟩ := read_fields (Verdict.result_ok_iff.mp turned)
    obtain ⟨named, placed⟩ := mappingFields_ok completed
    have same := field_text named protocol
    refine ⟨same, fun absent => ?_⟩
    have missing : Entries.get? fields "port" = none :=
      Option.not_isSome_iff_eq_none.mp (by simpa [Entries.has] using absent)
    rw [missing] at placed
    rw [same]
    exact field_whole placed port
  · cases turned

theorem url_secured {address : String} (turned : ofUrl (.str address) defaults = .ok d) {protocol : List Char}
    (named : namedScheme address = some protocol) (https : IsHttps protocol) :
    d.protocol = "https" ∧ (givesPort (.str address) = false → d.port = 443) := by
  obtain ⟨url, found, scheme, port⟩ := ofUrl_ok turned
  unfold namedScheme at named
  split at named
  · rename_i whole
    have same : addressed address = address := if_pos whole
    split at named
    · rename_i before after cut
      cases named
      have first : url.scheme = some "https" := by
        rw [same] at found
        rw [Url.read?_scheme found, Url.splitScheme_letters cut (isHttps_letters https) (isHttps_named https), https]
        rfl
      have secure : d.protocol = "https" := by
        rw [scheme, first]
        rfl
      refine ⟨secure, fun absent => ?_⟩
      change ((Url.read? (addressed address)).any fun url => url.port.isSome) = false at absent
      rw [found] at absent
      rw [port (Option.not_isSome_iff_eq_none.mp (by simpa using absent)), secure]
      rfl
    · cases named
  · cases named

theorem hostOf_secured {entry : Value} {host : Entries} (taken : hostOf defaults entry = .ok host)
    {protocol : List Char} (named : namedProtocol entry = some protocol) (https : IsHttps protocol) :
    let kept := entry.isText || protocol == "https".toList
    Entries.get? host "use_ssl" = some (.bool kept) ∧
      (givesPort entry = false → Entries.get? host "port" = some (.int (if kept then 443 else 80))) := by
  intro kept
  cases entry with
  | str address =>
    change (ofUrl (.str address) defaults).map toHost = .ok host at taken
    obtain ⟨d, turned, rfl⟩ := map_toHost_ok taken
    obtain ⟨secure, port⟩ := url_secured turned named https
    obtain ⟨ssl, place⟩ := toHost_secured d
    rw [ssl, place, secure]
    exact ⟨rfl, fun absent => by rw [port absent]; rfl⟩
  | map fields =>
    change (if describes fields then some (protocolIn fields).toList else none) = some protocol at named
    change (if describes fields then (ofMapping fields defaults).map toHost else .ok fields) = .ok host at taken
    by_cases described : describes fields = true
    · rw [if_pos described] at named taken
      obtain ⟨d, turned, rfl⟩ := map_toHost_ok taken
      obtain ⟨same, port⟩ := ofMapping_ok turned
      obtain ⟨ssl, place⟩ := toHost_secured d
      have exact : (d.protocol == "https") = kept := by
        change _ = (protocol == "https".toList)
        rw [same, ← Option.some.inj named, Bool.eq_iff_iff, beq_iff_eq, beq_iff_eq, String.toList_inj]
      rw [ssl, place, exact]
      refine ⟨rfl, fun absent => ?_⟩
      rw [port absent, ← exact]
      unfold defaultPort
      simp only [beq_iff_eq]
    · rw [if_neg described] at named
      cases named
  | _ => cases named

end Defaults

-- A node that is taken and whose protocol is https in some spelling is reached over TLS, and at the port that this
-- has by default if it gives none, exactly if it is written as a URL or its protocol is in lower case.
theorem hosts_secured {clients : List Value} {defaults : NodeDefaults} {found : List Entries}
    (taken : hosts (.list clients) defaults = .ok found) :
    List.Forall₂ (fun entry host => ∀ protocol, namedProtocol entry = some protocol → IsHttps protocol →
      let kept := entry.isText || protocol == "https".toList
      Entries.get? host "use_ssl" = some (.bool kept) ∧
        (givesPort entry = false → Entries.get? host "port" = some (.int (if kept then 443 else 80))))
      clients found := by
  apply (hosts_ok_iff.mp taken).imp
  intro entry host turned protocol named https
  exact hostOf_secured turned named https

def unconfigured : NodeDefaults := ⟨.null, .null, .map []⟩

def capitals : Value := .map (Entries.ofFields [("protocol", .str "HTTPS"), ("host", .str "h")])

theorem hosts_secured_spellings :
    let colon := Value.map (Entries.ofFields [("protocol", .str "https:"), ("host", .str "h"), ("port", .int 9200)])
    ∃ url mapping shouted,
      hosts (.list [.str "HTTPS://h", colon, capitals]) unconfigured = .ok [url, mapping, shouted] ∧
      Entries.get? url "use_ssl" = some (.bool true) ∧ Entries.get? url "port" = some (.int 443) ∧
      Entries.get? mapping "use_ssl" = some (.bool true) ∧
      Entries.get? shouted "use_ssl" = some (.bool false) ∧ Entries.get? shouted "port" = some (.int 80) := by
  intro colon
  have accepted : (hosts (.list [.str "HTTPS://h", colon, capitals]) unconfigured).toBool = true := by decide +kernel
  have portless : givesPort (.str "HTTPS://h") = false := by decide +kernel
  cases taken : hosts (.list [.str "HTTPS://h", colon, capitals]) unconfigured with
  | error failure =>
    rw [taken] at accepted
    cases accepted
  | ok found =>
    obtain ⟨url, _, urlKept, others, rfl⟩ := List.forall₂_cons_left_iff.mp (hosts_secured taken)
    obtain ⟨mapping, _, mappingKept, last, rfl⟩ := List.forall₂_cons_left_iff.mp others
    obtain ⟨shouted, _, shoutedKept, none, rfl⟩ := List.forall₂_cons_left_iff.mp last
    cases none
    obtain ⟨urlSecured, urlPort⟩ := urlKept "HTTPS".toList rfl rfl
    obtain ⟨mappingSecured, -⟩ := mappingKept "https".toList rfl rfl
    obtain ⟨unsecured, port⟩ := shoutedKept "HTTPS".toList rfl rfl
    exact ⟨url, mapping, shouted, rfl, urlSecured, urlPort portless, mappingSecured, unsecured, port rfl⟩

theorem capitals_unsecured : namedProtocol capitals = some "HTTPS".toList ∧ IsHttps "HTTPS".toList ∧
    hosts (.list [capitals]) unconfigured =
      .ok [Entries.ofFields [("host", .str "h"), ("port", .int 80), ("use_ssl", .bool false)]] :=
  ⟨rfl, rfl, rfl⟩

end Descriptor
end SearchStore
