import SearchStore.Connection
import SearchStore.Proofs.Handle.Outcome
import SearchStore.Proofs.Reading
namespace SearchStore
open Reading

namespace Descriptor

def addressed (text : String) : String := if hasScheme text then text else "http://" ++ text

end Descriptor

-- A URL needs an authority that can be told apart and a port that is one. A mapping that describes a node
-- needs readable fields, unless they are replaced by what the settings say.
def Node.readable (defaults : NodeDefaults) : Node → Bool
  | .url text => (Url.read? (Descriptor.addressed text)).any fun url => url.port?.isSome
  | .mapping fields => !Descriptor.describes fields ||
      accepts fields "host" text && accepts fields "port" whole && accepts fields "path" text &&
        (!(Entries.get fields "auth").truthy && defaults.credentials.isSome ||
          accepts fields "auth" (optional text)) &&
        (!(Entries.get fields "headers").truthy && defaults.headers.truthy ||
          accepts fields "headers" (optional (mappingOf text)))

namespace Descriptor

theorem isValid_read (fields : Entries) : (read fields).isValid =
    (accepts fields "protocol" text && accepts fields "host" text && accepts fields "port" whole &&
      accepts fields "path" text && accepts fields "auth" (optional text) &&
      accepts fields "headers" (optional (mappingOf text))) := by
  simp [read]

section Defaults
variable {defaults : NodeDefaults} {headers : List (String × String)}

theorem read_textFields (headers : List (String × String)) :
    optional (mappingOf text) (.map (textFields headers)) = .valid (some headers) := by
  have whole : mappingOf text (.map (textFields headers)) = .valid headers := by
    refine mappingOf_valid_iff.mpr ⟨_, rfl, ?_⟩
    unfold textFields Entries.ofFields
    rw [List.map_map, List.forall₂_map_left_iff, List.forall₂_same]
    exact fun _ _ => ⟨rfl, rfl⟩
  change (mappingOf text _).map some = _
  rw [whole]
  rfl

theorem isValid_textFields (headers : List (String × String)) :
    (optional (mappingOf text) (.map (textFields headers))).isValid = true := by
  rw [read_textFields]
  rfl

theorem isValid_parts (protocol host path : String) (port : Int) {auth : Option String} {headers : Value}
    (readable : (optional (mappingOf text) headers).isValid = true) :
    (read (Entries.ofFields [("protocol", .str protocol), ("host", .str host), ("port", .int port),
      ("path", .str path), ("auth", auth.elim .null .str), ("headers", headers)])).isValid = true := by
  have authorised : (optional text (auth.elim .null .str)).isValid = true := by cases auth <;> rfl
  rw [isValid_read]
  simp [accepts, Entries.get?_ofFields_cons, authorised, readable]
  exact ⟨⟨⟨rfl, rfl⟩, rfl⟩, rfl⟩

theorem urlFields_valid (given : defaults.headers = .map (textFields headers)) {url : Url}
    (located : url.port?.isSome = true) :
    ∃ fields, urlFields url defaults = .ok fields ∧ (read fields).isValid = true := by
  obtain ⟨port, found⟩ := Option.isSome_iff_exists.mp located
  unfold urlFields
  rw [found, given]
  by_cases present : (Value.map (textFields headers)).truthy
  · simp only [present, if_true]
    exact ⟨_, rfl, isValid_parts _ _ _ _ (isValid_textFields headers)⟩
  · simp only [present]
    exact ⟨_, rfl, isValid_parts _ _ _ _ rfl⟩

theorem urlFields_unlocated {url : Url} (unlocated : url.port?.isSome = false) :
    urlFields url defaults = .error .badContent := by
  unfold urlFields
  rw [Option.isNone_iff_eq_none.mp (Option.isSome_eq_false_iff.mp unlocated)]

theorem urlText_str (address : String) : urlText (.str address) = .ok (addressed address) := rfl

section Addresses
variable {address : String} {url : Url}

theorem ofUrl_unread (unread : Url.read? (addressed address) = none) :
    ofUrl (.str address) defaults = .error (.fault .badContent) := by
  unfold ofUrl
  simp only [urlText_str, bind, Except.bind, unread]

theorem ofUrl_unmade {fault : Fault} (found : Url.read? (addressed address) = some url)
    (unmade : urlFields url defaults = .error fault) : ofUrl (.str address) defaults = .error (.fault fault) := by
  unfold ofUrl
  simp only [urlText_str, bind, Except.bind, found, unmade]

theorem ofUrl_made {fields : Entries} (found : Url.read? (addressed address) = some url)
    (made : urlFields url defaults = .ok fields) : ofUrl (.str address) defaults = (read fields).result := by
  unfold ofUrl
  simp only [urlText_str, bind, Except.bind, found, made]

end Addresses

theorem ofUrl_ways (given : defaults.headers = .map (textFields headers)) (address : String) :
    (Node.url address).readable defaults = true ∧ (∃ d, ofUrl (.str address) defaults = .ok d) ∨
      (Node.url address).readable defaults = false ∧
        ofUrl (.str address) defaults = .error (.fault .badContent) := by
  have readable : (Node.url address).readable defaults =
      (Url.read? (addressed address)).any fun url => url.port?.isSome := rfl
  rw [readable]
  cases found : Url.read? (addressed address) with
  | none => exact .inr ⟨rfl, ofUrl_unread found⟩
  | some url =>
    rw [Option.any_some]
    cases located : url.port?.isSome with
    | true =>
      obtain ⟨fields, made, valid⟩ := urlFields_valid given located
      obtain ⟨d, read⟩ := Verdict.isValid_iff.mp valid
      exact .inl ⟨rfl, d, (ofUrl_made found made).trans (Verdict.result_ok_iff.mpr read)⟩
    | false => exact .inr ⟨rfl, ofUrl_unmade found (urlFields_unlocated located)⟩

def located (fields : Entries) : Entries :=
  let protocol := withoutColons ((Entries.get fields "protocol").orElse (.str "http")).display
  Entries.setDefault (Entries.set fields "protocol" (.str protocol)) "port" (.int (defaultPort protocol))

theorem get?_located (fields : Entries) {name : String} (protocol : "protocol" ≠ name) (port : "port" ≠ name) :
    Entries.get? (located fields) name = Entries.get? fields name := by
  unfold located Entries.setDefault
  dsimp only
  split
  · exact Entries.get?_set_of_ne protocol
  · rw [Entries.get?_set_of_ne port, Entries.get?_set_of_ne protocol]

theorem get?_setDefault_self {entries : Entries} {name : String} {v : Value} :
    Entries.get? (Entries.setDefault entries name v) name = some ((Entries.get? entries name).getD v) := by
  unfold Entries.setDefault Entries.has
  cases given : Entries.get? entries name with
  | none => exact Entries.get?_set_self
  | some present => exact given

theorem get?_setDefault_of_ne {entries : Entries} {name other : String} {v : Value} (apart : name ≠ other) :
    Entries.get? (Entries.setDefault entries name v) other = Entries.get? entries other := by
  unfold Entries.setDefault
  split
  · rfl
  · exact Entries.get?_set_of_ne apart

def protocolIn (fields : Entries) : String :=
  withoutColons ((Entries.get fields "protocol").orElse (.str "http")).display

theorem protocol_located (fields : Entries) :
    Entries.get? (located fields) "protocol" = some (.str (protocolIn fields)) :=
  (get?_setDefault_of_ne (by decide)).trans Entries.get?_set_self

theorem port_located (fields : Entries) : Entries.get? (located fields) "port" =
    some ((Entries.get? fields "port").getD (.int (defaultPort (protocolIn fields)))) := by
  have kept : Entries.get? (Entries.set fields "protocol" (.str (protocolIn fields))) "port" =
      Entries.get? fields "port" := Entries.get?_set_of_ne (by decide)
  rw [← kept]
  exact get?_setDefault_self

def authorised (defaults : NodeDefaults) (fields : Entries) : Entries :=
  match (Entries.get fields "auth").truthy, defaults.credentials with
  | false, some auth => Entries.set fields "auth" (.str auth)
  | _, _ => fields

def headed (defaults : NodeDefaults) (fields : Entries) : Entries :=
  if !(Entries.get fields "headers").truthy && defaults.headers.truthy then
    Entries.set fields "headers" defaults.headers
  else fields

def completed (defaults : NodeDefaults) (fields : Entries) : Entries :=
  headed defaults (authorised defaults (located fields))

theorem get?_authorised (fields : Entries) {name : String} (apart : "auth" ≠ name) :
    Entries.get? (authorised defaults fields) name = Entries.get? fields name := by
  unfold authorised
  split
  · exact Entries.get?_set_of_ne apart
  · rfl

theorem get?_headed (fields : Entries) {name : String} (apart : "headers" ≠ name) :
    Entries.get? (headed defaults fields) name = Entries.get? fields name := by
  unfold headed
  split
  · exact Entries.get?_set_of_ne apart
  · rfl

theorem get?_completed (fields : Entries) {name : String} (auth : "auth" ≠ name) (headers : "headers" ≠ name) :
    Entries.get? (completed defaults fields) name = Entries.get? (located fields) name :=
  (get?_headed _ headers).trans (get?_authorised _ auth)

variable (defaults) in
theorem protocol_completed (fields : Entries) :
    Entries.get? (completed defaults fields) "protocol" = some (.str (protocolIn fields)) :=
  (get?_completed fields (by decide) (by decide)).trans (protocol_located fields)

variable (defaults) in
theorem port_completed (fields : Entries) : Entries.get? (completed defaults fields) "port" =
    some ((Entries.get? fields "port").getD (.int (defaultPort (protocolIn fields)))) :=
  (get?_completed fields (by decide) (by decide)).trans (port_located fields)

variable (defaults) in
-- Credentials of a mapping's own stay, as long as they say something.
theorem auth_completed (fields : Entries) : Entries.get? (completed defaults fields) "auth" =
    if (Entries.get fields "auth").truthy then Entries.get? fields "auth"
    else (defaults.credentials.map .str).or (Entries.get? fields "auth") := by
  have own : Entries.get? (located fields) "auth" = Entries.get? fields "auth" :=
    get?_located fields (by decide) (by decide)
  have asked : Entries.get (located fields) "auth" = Entries.get fields "auth" := congrArg (·.getD .null) own
  unfold completed
  rw [get?_headed _ (by decide)]
  unfold authorised
  rw [asked]
  cases (Entries.get fields "auth").truthy with
  | true => exact own
  | false =>
    cases defaults.credentials with
    | none => exact own
    | some auth => exact Entries.get?_set_self

variable (defaults) in
theorem headers_completed (fields : Entries) : Entries.get? (completed defaults fields) "headers" =
    if (Entries.get fields "headers").truthy || !defaults.headers.truthy then Entries.get? fields "headers"
    else some defaults.headers := by
  have own : Entries.get? (authorised defaults (located fields)) "headers" = Entries.get? fields "headers" :=
    (get?_authorised _ (by decide)).trans (get?_located fields (by decide) (by decide))
  have asked : Entries.get (authorised defaults (located fields)) "headers" = Entries.get fields "headers" :=
    congrArg (·.getD .null) own
  unfold completed headed
  rw [asked]
  cases (Entries.get fields "headers").truthy with
  | true => exact own
  | false =>
    cases defaults.headers.truthy with
    | true => exact Entries.get?_set_self
    | false => exact own

theorem accepts_authorised (fields : Entries) : accepts (authorised defaults fields) "auth" (optional text) =
    (!(Entries.get fields "auth").truthy && defaults.credentials.isSome ||
      accepts fields "auth" (optional text)) := by
  unfold authorised
  split
  · rename_i auth empty credentials
    rw [accepts_set_self, empty, credentials]
    rfl
  · rename_i others
    cases empty : (Entries.get fields "auth").truthy with
    | true => rfl
    | false =>
      cases credentials : defaults.credentials with
      | some auth => exact absurd credentials (others auth empty)
      | none => rfl

theorem accepts_headed (given : defaults.headers = .map (textFields headers)) (fields : Entries) :
    accepts (headed defaults fields) "headers" (optional (mappingOf text)) =
      (!(Entries.get fields "headers").truthy && defaults.headers.truthy ||
        accepts fields "headers" (optional (mappingOf text))) := by
  unfold headed
  split
  · rename_i replaced
    rw [accepts_set_self, replaced, given, isValid_textFields, Bool.true_or]
  · rename_i kept
    rw [Bool.eq_false_iff.mpr kept, Bool.false_or]

theorem mappingFields_eq (mapped : defaults.headers.truthy = true → ∃ entries, defaults.headers = .map entries)
    (fields : Entries) :
    mappingFields fields defaults = .ok (completed defaults fields) := by
  obtain ⟨username, password, headers⟩ := defaults
  cases present : headers.truthy with
  | true =>
    obtain ⟨entries, given⟩ := mapped present
    cases given
    exact (apply_ite Except.ok _ _ _).symm
  | false =>
    unfold mappingFields completed headed
    simp only [present, Bool.and_false]
    rfl

theorem mappingFields_valid (given : defaults.headers = .map (textFields headers)) (fields : Entries)
    (described : describes fields = true) : ∃ completed, mappingFields fields defaults = .ok completed ∧
      (read completed).isValid = (Node.mapping fields).readable defaults := by
  refine ⟨_, mappingFields_eq (fun _ => ⟨_, given⟩) fields, ?_⟩
  unfold completed
  -- The three steps write to four fields, so each field is looked up past the steps that write elsewhere.
  have own {α : Type} (name : String) (read : Value → Verdict α) (protocol : "protocol" ≠ name)
      (port : "port" ≠ name) : accepts (located fields) name read = accepts fields name read := by
    rw [accepts, accepts, get?_located fields protocol port]
  have unauthorised {α : Type} (name : String) (read : Value → Verdict α) (auth : "auth" ≠ name) :
      accepts (authorised defaults (located fields)) name read = accepts (located fields) name read := by
    rw [accepts, accepts, get?_authorised _ auth]
  have unheaded {α : Type} (name : String) (read : Value → Verdict α) (headers : "headers" ≠ name) :
      accepts (headed defaults (authorised defaults (located fields))) name read =
        accepts (authorised defaults (located fields)) name read := by
    rw [accepts, accepts, get?_headed _ headers]
  have protocol : accepts (located fields) "protocol" text = true :=
    (accepts_setDefault_of_ne (by decide) _ _).trans (accepts_set_self _ _ _)
  have port : accepts (located fields) "port" whole = accepts fields "port" whole :=
    (accepts_setDefault rfl _ _).trans (accepts_set_of_ne (by decide) _ _)
  have auth : Entries.get (located fields) "auth" = Entries.get fields "auth" :=
    congrArg (·.getD .null) (get?_located fields (by decide) (by decide))
  have headers : Entries.get (authorised defaults (located fields)) "headers" = Entries.get fields "headers" :=
    congrArg (·.getD .null)
      ((get?_authorised _ (by decide)).trans (get?_located fields (by decide) (by decide)))
  simp [isValid_read, Node.readable, described, accepts_headed given, headers, accepts_authorised, auth, protocol,
    port, unheaded, unauthorised, own]

theorem hostOf_ways (given : defaults.headers = .map (textFields headers)) (node : Node) :
    node.readable defaults = true ∧ (∃ host, hostOf defaults node.toValue = .ok host) ∨
      node.readable defaults = false ∧
        ∃ failure, hostOf defaults node.toValue = .error failure ∧ failure.isStore = false := by
  cases node with
  | url address =>
    have turned : hostOf defaults (.str address) = (ofUrl (.str address) defaults).map toHost := rfl
    rcases ofUrl_ways given address with ⟨readable, d, read⟩ | ⟨unreadable, failed⟩
    · exact .inl ⟨readable, _, by rw [Node.toValue, turned, read]; rfl⟩
    · exact .inr ⟨unreadable, _, by rw [Node.toValue, turned, failed]; rfl, rfl⟩
  | mapping fields =>
    cases described : describes fields with
    | false =>
      have kept : hostOf defaults (.map fields) = .ok fields := if_neg (by simp [described])
      exact .inl ⟨by simp [Node.readable, described], fields, kept⟩
    | true =>
      obtain ⟨completed, made, valid⟩ := mappingFields_valid given fields described
      have read : ofMapping fields defaults = (read completed).result := by
        unfold ofMapping
        rw [made]
      have turned : hostOf defaults (.map fields) = (ofMapping fields defaults).map toHost := if_pos described
      rw [Node.toValue, turned, read, ← valid]
      cases Descriptor.read completed with
      | valid d => exact .inl ⟨rfl, _, rfl⟩
      | invalid details => exact .inr ⟨rfl, _, rfl, rfl⟩
      | failed fault => exact .inr ⟨rfl, _, rfl, rfl⟩

theorem hosts_ok_iff {clients : List Value} {found : List Entries} : hosts (.list clients) defaults = .ok found ↔
    List.Forall₂ (fun client host => hostOf defaults client = .ok host) clients found := by
  change clients.mapM (hostOf defaults) = .ok found ↔ _
  induction clients generalizing found with
  | nil => cases found <;> simp [pure, Except.pure]
  | cons client rest ih =>
    rw [List.mapM_cons]
    cases turned : hostOf defaults client with
    | error failure => cases found <;> simp [turned, bind, Except.bind]
    | ok host =>
      cases others : rest.mapM (hostOf defaults) with
      | error failure => cases found <;> simp [← ih, others, bind, Except.bind]
      | ok more => cases found <;> simp [← ih, turned, others, bind, Except.bind, pure, Except.pure]

theorem hosts_ways (given : defaults.headers = .map (textFields headers)) (nodes : List Node) :
    (∀ node ∈ nodes, node.readable defaults = true) ∧
        (∃ found, hosts (.list (nodes.map Node.toValue)) defaults = .ok found) ∨
      ∃ node ∈ nodes, node.readable defaults = false ∧ ∃ failure, failure.isStore = false ∧
        hostOf defaults node.toValue = .error failure ∧
        hosts (.list (nodes.map Node.toValue)) defaults = .error failure := by
  have turned : hosts (.list (nodes.map Node.toValue)) defaults =
      (nodes.map Node.toValue).mapM (hostOf defaults) := rfl
  rw [turned]
  clear turned
  induction nodes with
  | nil => exact .inl ⟨by simp, [], rfl⟩
  | cons node rest ih =>
    rw [List.map_cons, List.mapM_cons]
    rcases hostOf_ways given node with ⟨readable, host, read⟩ | ⟨unreadable, failure, failed, foreign⟩
    · rw [read]
      rcases ih with ⟨others, found, made⟩ | ⟨other, member, unreadable, failure, foreign, failed, stopped⟩
      · rw [made]
        exact .inl ⟨List.forall_mem_cons.mpr ⟨readable, others⟩, host :: found, rfl⟩
      · rw [stopped]
        exact .inr ⟨other, List.mem_cons_of_mem _ member, unreadable, failure, foreign, failed, rfl⟩
    · rw [failed]
      exact .inr ⟨node, List.mem_cons_self, unreadable, failure, foreign, failed, rfl⟩

end Defaults
end Descriptor

theorem Connection.make_ways (settings : StoreSettings) (client : Option Client) :
    let defaults := nodeDefaults settings
    (∀ node ∈ settings.clients, node.readable defaults = true) ∧ (∃ c, make settings client = .ok c) ∨
      ∃ node ∈ settings.clients, node.readable defaults = false ∧ ∃ failure, failure.isStore = false ∧
        Descriptor.hostOf defaults node.toValue = .error failure ∧ make settings client = .error failure := by
  intro defaults
  unfold make
  have given : defaults.headers = .map (Descriptor.textFields settings.headers) := rfl
  rcases Descriptor.hosts_ways given settings.clients with
    ⟨readable, found, read⟩ | ⟨node, member, unreadable, failure, foreign, failed, stopped⟩
  · rw [read]
    exact .inl ⟨readable, ⟨_, rfl⟩⟩
  · rw [stopped]
    exact .inr ⟨node, member, unreadable, failure, foreign, failed, rfl⟩

end SearchStore
