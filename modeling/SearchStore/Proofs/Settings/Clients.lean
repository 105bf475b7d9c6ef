import SearchStore.Proofs.Json
import SearchStore.Proofs.Settings.Precedence
namespace SearchStore
open Reading

namespace Variables

def ofClients (text : String) : Variables := [(.str "elastore_store__clients", .str text)]

theorem ofClients_absent (text : String) {field : String} (apart : namespaceText ++ field ≠ "elastore_store__clients") :
    Entries.get (ofClients text) (namespaceText ++ field) = .null := by
  have other : ¬(Value.str "elastore_store__clients").sameKey (.str (namespaceText ++ field)) = true := by
    simpa [Value.sameKey] using apart.symm
  unfold Entries.get ofClients
  rw [Entries.get?_cons, if_neg other]
  rfl

theorem inside_clients (text : String) : inside (ofClients text) "store" .store =
    (decoded .json (.str text)).map fun v => [(.str "clients", v)] := by
  have path : path? "store" (Value.display (.str "elastore_store__clients")) = some ["clients"] := by decide +kernel
  unfold inside ofClients
  rw [List.foldlM_cons]
  dsimp only
  rw [path]
  change (decoded .json (.str text) >>= _) >>= _ = _
  cases decoded .json (.str text) with
  | error failure => rfl
  | ok v => rfl

theorem inside_apart (text : String) : inside (ofClients text) "observability" .observability = .ok [] := by
  have path : path? "observability" (Value.display (.str "elastore_store__clients")) = none := by decide +kernel
  unfold inside ofClients
  rw [List.foldlM_cons]
  dsimp only
  rw [path]
  rfl

theorem field?_clients (text : String) : field? (ofClients text) "store" .store =
    (decoded .json (.str text)).map fun v => some (.map [(.str "clients", v)]) := by
  unfold field?
  rw [ofClients_absent text (by decide), inside_clients]
  cases decoded .json (.str text) with
  | error failure => rfl
  | ok v => rfl

theorem field?_apart (text : String) : field? (ofClients text) "observability" .observability = .ok none := by
  unfold field?
  rw [ofClients_absent text (by decide), inside_apart]
  rfl

theorem toEntries_clients (text : String) : toEntries (ofClients text) =
    (decoded .json (.str text)).map fun v => [(.str "store", .map [(.str "clients", v)])] := by
  unfold toEntries known
  simp only [List.foldlM_cons, List.foldlM_nil, field?_clients, field?_apart]
  cases decoded .json (.str text) with
  | error failure => rfl
  | ok v => rfl

end Variables

namespace Surroundings

def withClients (text : String) : Surroundings := { environment := [("ELASTORE_STORE__CLIENTS", text)] }

theorem environment_withClients (text : String) : (withClients text).environmentEntries =
    (Variables.decoded .json (.str text)).map fun v => [(.str "store", .map [(.str "clients", v)])] := by
  have lowered : Text.lower "ELASTORE_STORE__CLIENTS" = "elastore_store__clients" := by decide +kernel
  have found : Variables.ofBindings (withClients text).bindings = Variables.ofClients text := by
    change Entries.set [] (Text.lower "ELASTORE_STORE__CLIENTS") (.str text) = _
    rw [lowered]
    rfl
  unfold environmentEntries
  rw [found, Variables.toEntries_clients]

end Surroundings

namespace Node
variable {text : String} {v : Value} {nodes : List Value}

def ofValue? (v : Value) : Option (List Node) := (readAll v).result.toOption

theorem ofValue?_some {read : List Node} : ofValue? v = some read ↔ readAll v = .valid read := by
  unfold ofValue?
  cases readAll v <;> simp [Verdict.result, Except.toOption]

-- A text that the settings take for one node as it stands.
structure Alone (text : String) : Prop where
  full : text ≠ ""
  unlisted : ∀ nodes, Json.read text ≠ .ok (.list nodes)
  short : Json.read text ≠ .error .tooLong

theorem Alone.listed (alone : Alone text) : listed (.str text) = .ok [.str text] := by
  unfold Node.listed
  dsimp only
  split
  · rename_i nodes read
    exact absurd read (alone.unlisted nodes)
  · rename_i read
    exact absurd read alone.short
  · rw [if_neg (by simpa using alone.full)]

theorem Alone.ofValue? (alone : Alone text) : ofValue? (.str text) = some [.url text] := by
  rw [ofValue?_some, readAll, alone.listed]
  rfl

theorem ofValue?_list (read : Json.read text = .ok (.list nodes)) : ofValue? (.list nodes) = ofValue? (.str text) := by
  have items : listed (.str text) = .ok nodes := by
    rw [listed, read]
  unfold ofValue? readAll
  rw [items]
  rfl

theorem ofValue?_tooLong (read : Json.read text = .error .tooLong) : ofValue? (.str text) = none := by
  have refused : listed (.str text) = .error .badContent := by
    rw [listed, read]
  unfold ofValue? readAll
  rw [refused]
  rfl

theorem read_url (read : Node.read v = .valid (.url text)) : v = .str text := by
  cases v with
  | str text =>
    cases read
    rfl
  | map entries =>
    rw [read_map] at read
    cases found : Reading.mapping (.map entries) with
    | _ =>
      rw [found] at read
      cases read
  | _ => cases read

theorem listed_of_url (read : ofValue? v = some [.url text]) : listed v = .ok [.str text] := by
  rw [ofValue?_some] at read
  unfold readAll at read
  split at read
  · rename_i nodes listed
    have each := sequenceOf_valid_iff.mp read
    obtain ⟨node, rfl⟩ := List.length_eq_one_iff.mp (by simpa using congrArg List.length each)
    rw [read_url (List.cons.inj each).1] at listed
    exact listed
  · cases read

theorem listed_of_single (single : Json.Single v) : listed v = .error .wrongKind := by
  cases v with
  | str text => cases single
  | map entries => cases single
  | _ => exact single

-- What a text reads as is never this text again, nor a list of it.
theorem ofValue?_read (read : Json.read text = .ok v) (unlisted : ∀ nodes, v ≠ .list nodes) :
    ofValue? v ≠ some [.url text] := by
  intro url
  have same := listed_of_url url
  obtain ⟨_, _, whole⟩ := Json.read_value read
  cases Json.value_begun whole with
  | @text _ inner _ _ =>
    have shorter := Json.read_text read
    unfold listed at same
    dsimp only at same
    split at same
    · rename_i nodes within
      cases same
      exact absurd (Json.read_list within) (Nat.lt_asymm shorter)
    · cases same
    · split at same
      · cases same
      · cases same
        exact absurd shorter (Nat.lt_irrefl _)
  | empty => exact unlisted _ rfl
  | items => exact unlisted _ rfl
  | mapping entries => cases same
  | single single =>
    rw [listed_of_single single] at same
    cases same

end Node

namespace StoreSettings

theorem readFields_clients (v : Value) : readFields (Entries.ofFields [("clients", v)]) =
    ((Node.readAll v).inside (.field "clients")).map fun nodes => { clients := nodes } := by
  have given : field (Entries.ofFields [("clients", v)]) "clients" Node.readAll [.url "http://localhost:9200"] =
      (Node.readAll v).inside (.field "clients") := rfl
  unfold readFields
  dsimp only
  rw [given]
  cases (Node.readAll v).inside (.field "clients") with
  | _ => rfl

theorem ofNamed_clients (v : Value) : (ofNamed (Entries.ofFields [("clients", v)])).toOption =
    (Node.ofValue? v).map fun nodes => { clients := nodes } := by
  have named : Entries.hasTextKeys (Entries.ofFields [("clients", v)]) = true := rfl
  rw [ofNamed, if_pos named, readFields_clients, Node.ofValue?]
  cases Node.readAll v with
  | _ => rfl

end StoreSettings

namespace Settings

theorem load_unreadable {text : String} {failure : Failure}
    (unread : Variables.decoded .json (.str text) = .error failure) :
    load (.map []) (.withClients text) = .error failure := by
  have found : (Surroundings.withClients text).environmentEntries = .error failure := by
    rw [Surroundings.environment_withClients, unread]
    rfl
  change (merged [] (.withClients text) >>= _) = _
  unfold merged
  rw [found]
  rfl

theorem load_decoded {text : String} {v : Value} (read : Variables.decoded .json (.str text) = .ok v) :
    (load (.map []) (.withClients text)).toOption.map (·.store) =
      (Node.ofValue? v).map fun nodes => { clients := nodes } := by
  have found : (Surroundings.withClients text).environmentEntries =
      .ok [(.str "store", .map (Entries.ofFields [("clients", v)]))] := by
    rw [Surroundings.environment_withClients, read]
    rfl
  have whole : load (.map []) (.withClients text) =
      (readFields [(.str "store", .map (Entries.ofFields [("clients", v)]))]).result := by
    change (merged [] (.withClients text) >>= _) = _
    unfold Surroundings.withClients at found ⊢
    rw [merged_environment found]
    rfl
  have given : StoreSettings.read (.map (Entries.ofFields [("clients", v)])) = _ := StoreSettings.readFields_clients v
  have store : field [(.str "store", .map (Entries.ofFields [("clients", v)]))] "store" StoreSettings.read {} =
      (StoreSettings.read (.map (Entries.ofFields [("clients", v)]))).inside (.field "store") := rfl
  rw [whole, readFields, store, given, Node.ofValue?]
  cases Node.readAll v with
  | _ => rfl

section Alike
variable {text : String}

theorem decoded_read {v : Value} (full : text ≠ "") (read : Json.read text = .ok v) :
    Variables.decoded .json (.str text) = .ok v := by
  have filled : (Spelling.isJson .json && !text.isEmpty) = true := by simpa [Spelling.isJson] using full
  unfold Variables.decoded
  dsimp only
  rw [if_pos filled, Json.parse_eq_some.mpr read]

theorem decoded_unread {refusal : Json.Refusal} (full : text ≠ "") (unread : Json.read text = .error refusal) :
    Variables.decoded .json (.str text) = .error .settingUnreadable := by
  have filled : (Spelling.isJson .json && !text.isEmpty) = true := by simpa [Spelling.isJson] using full
  have unparsed : Json.parse text = none := by rw [Json.parse, unread]; rfl
  unfold Variables.decoded
  dsimp only
  rw [if_pos filled, unparsed]

-- What a variable says about the nodes is the same as if it was said directly.
def ClientsAlike (text : String) : Prop :=
  (load (.map []) (.withClients text)).toOption.map (·.store) =
    (StoreSettings.ofNamed (Entries.ofFields [("clients", .str text)])).toOption

theorem clientsAlike_of_decoded {v : Value} (read : Variables.decoded .json (.str text) = .ok v)
    (same : Node.ofValue? v = Node.ofValue? (.str text)) : ClientsAlike text := by
  unfold ClientsAlike
  rw [load_decoded read, StoreSettings.ofNamed_clients, same]

theorem clientsAlike_iff (text : String) : ClientsAlike text ↔
    text = "" ∨ (∃ nodes, Json.read text = .ok (.list nodes)) ∨ Json.read text = .error .tooLong := by
  constructor
  · intro alike
    by_contra none
    obtain ⟨full, unlisted, short⟩ : text ≠ "" ∧ (¬∃ nodes, Json.read text = .ok (.list nodes)) ∧
        Json.read text ≠ .error .tooLong := by simpa only [not_or] using none
    have direct := Node.Alone.ofValue? ⟨full, not_exists.mp unlisted, short⟩
    unfold ClientsAlike at alike
    rw [StoreSettings.ofNamed_clients, direct] at alike
    cases read : Json.read text with
    | error refusal =>
      rw [load_unreadable (decoded_unread full read)] at alike
      cases alike
    | ok v =>
      rw [load_decoded (decoded_read full read)] at alike
      obtain ⟨nodes, again, same⟩ := Option.map_eq_some_iff.mp alike
      obtain rfl : nodes = [.url text] := congrArg StoreSettings.clients same
      refine Node.ofValue?_read read ?_ again
      rintro nodes rfl
      exact unlisted ⟨nodes, read⟩
  · rintro (rfl | ⟨nodes, read⟩ | long)
    · exact clientsAlike_of_decoded (v := .str "") rfl rfl
    · by_cases full : text = ""
      · subst full
        exact clientsAlike_of_decoded (v := .str "") rfl rfl
      · exact clientsAlike_of_decoded (decoded_read full read) (Node.ofValue?_list read)
    · have full : text ≠ "" := by
        rintro rfl
        cases long
      unfold ClientsAlike
      rw [load_unreadable (decoded_unread full long), StoreSettings.ofNamed_clients, Node.ofValue?_tooLong long]
      rfl

theorem unread_directly (full : text ≠ "") (unread : Json.read text = .error .malformed) :
    load (.map []) (.withClients text) = .error .settingUnreadable ∧
      StoreSettings.ofNamed (Entries.ofFields [("clients", .str text)]) = .ok { clients := [.url text] } := by
  refine ⟨load_unreadable (decoded_unread full unread), ?_⟩
  have named := StoreSettings.ofNamed_clients (.str text)
  have alone : Node.Alone text := ⟨full, by simp [unread], by simp [unread]⟩
  rw [alone.ofValue?] at named
  cases direct : StoreSettings.ofNamed (Entries.ofFields [("clients", .str text)]) with
  | error failure =>
    rw [direct] at named
    cases named
  | ok settings =>
    rw [direct] at named
    exact congrArg Except.ok (Option.some.inj named)

end Alike

-- A variable for the nodes is taken for JSON before anything else, so a single URL is refused there, while it is
-- accepted where the nodes are given directly. The same either way are a list, nothing, and JSON with a number that
-- is too long for both.
theorem single_url_refused (place text : String) :
    (∀ scheme ∈ ["http", "https"],
      load (.map []) (.withClients (scheme ++ "://" ++ place)) = .error .settingUnreadable ∧
        StoreSettings.ofNamed (Entries.ofFields [("clients", .str (scheme ++ "://" ++ place))]) =
          .ok { clients := [.url (scheme ++ "://" ++ place)] }) ∧
    (ClientsAlike text ↔
      text = "" ∨ (∃ nodes, Json.read text = .ok (.list nodes)) ∨ Json.read text = .error .tooLong) := by
  refine ⟨fun scheme known => ?_, clientsAlike_iff text⟩
  obtain ⟨rest, opened⟩ : ∃ rest, (scheme ++ "://" ++ place).toList = 'h' :: rest := by
    obtain rfl | rfl : scheme = "http" ∨ scheme = "https" := by simpa using known
    · exact ⟨_, String.toList_append⟩
    · exact ⟨_, String.toList_append⟩
  refine unread_directly (fun empty => ?_) (Json.read_scheme opened)
  rw [empty] at opened
  cases opened

theorem secure_url_refused :
    load (.map []) (.withClients "https://es-1:9200") = .error .settingUnreadable ∧
      StoreSettings.ofNamed (Entries.ofFields [("clients", .str "https://es-1:9200")]) =
        .ok { clients := [.url "https://es-1:9200"] } ∧
      ¬ClientsAlike "https://es-1:9200" := by
  obtain ⟨refused, direct⟩ := unread_directly (by decide)
    (Json.read_scheme (rfl : "https://es-1:9200".toList = 'h' :: _))
  refine ⟨refused, direct, fun alike => ?_⟩
  unfold ClientsAlike at alike
  rw [refused, direct] at alike
  cases alike

end Settings
end SearchStore
