import SearchStore.Proofs.Handle.Address
namespace SearchStore
open SearchStore.Action Session

namespace Handle
variable {h : Handle} {op : Operation} {document data opts : Entries} {type : String} {id extra : Value}
  {positional positional' values others : List Value} {named named' : Entries} {c : Change}

-- A document with its type and id in order.
structure Identified (document : Entries) (type : String) (id : Value) : Prop where
  typed : Entries.get document "_type" = .str type
  full : type ≠ ""
  named : documentId document = id
  valid : id.isIdentifier = true

def changeOf : Operation → List Value → Option Change
  | .update, [docType, id, data, opts] => some (updateOf docType id data opts)
  | .destroy, [docType, id, opts] => some (destroyOf docType id opts)
  | _, _ => none

theorem changeOf_parts (read : changeOf op values = some c) :
    (∃ docType id data opts, op = .update ∧ values = [docType, id, data, opts] ∧
      updateOf docType id data opts = c) ∨
    ∃ docType id opts, op = .destroy ∧ values = [docType, id, opts] ∧ destroyOf docType id opts = c := by
  unfold changeOf at read
  split at read
  · exact .inl ⟨_, _, _, _, rfl, rfl, Option.some.inj read⟩
  · exact .inr ⟨_, _, _, rfl, rfl, Option.some.inj read⟩
  · cases read

theorem run_change (one : changeOf op values = some c) (other : changeOf op others = some c) :
    h.run op values = h.run op others := by
  rcases changeOf_parts one with ⟨docType, id, data, opts, rfl, rfl, rfl⟩ | ⟨docType, id, opts, rfl, rfl, rfl⟩
  · rcases changeOf_parts other with ⟨docType', id', data', opts', -, rfl, same⟩ | ⟨_, _, _, wrong, -, -⟩
    · simp only [run, update, same]
    · cases wrong
  · rcases changeOf_parts other with ⟨_, _, _, _, wrong, -, -⟩ | ⟨docType', id', opts', -, rfl, same⟩
    · cases wrong
    · simp only [run, destroy, same]

theorem invoke_change (fits : Parameter.bind op.parameters positional named = some values)
    (fits' : Parameter.bind op.parameters positional' named' = some others)
    (one : changeOf op values = some c) (other : changeOf op others = some c) :
    h.invoke op positional named = h.invoke op positional' named' := by
  unfold invoke
  rw [fits, fits']
  exact run_change one other

theorem Identified.selfNaming (self : Identified document type id) :
    Handle.selfNaming (.map document) = some document := by
  have truthy : (Entries.get document "_type").truthy = true := by
    rw [self.typed]
    simpa [Value.truthy] using self.full
  simp [Handle.selfNaming, truthy]

theorem idOf_identifier (valid : id.isIdentifier = true) : idOf id = id := by
  cases id with
  | map document => cases valid
  | _ => rfl

theorem Identified.update_first (self : Identified document type id) (data opts rest : Value) :
    changeOf .update [.map document, data, opts, rest] =
      some ⟨.str type, id, if data.isNull then .map (ownFields document) else data, opts⟩ := by
  simp only [changeOf, updateOf, self.selfNaming, self.typed, self.named]

theorem Identified.update_second (self : Identified document type id) (data opts : Value) :
    changeOf .update [.str type, .map document, data, opts] = some ⟨.str type, id, data, opts⟩ := by
  simp only [changeOf, updateOf, Handle.selfNaming, idOf, self.named]

theorem Identified.update_plain (self : Identified document type id) (data opts : Value) :
    changeOf .update [.str type, id, data, opts] = some ⟨.str type, id, data, opts⟩ := by
  simp only [changeOf, updateOf, Handle.selfNaming, idOf_identifier self.valid]

theorem Identified.destroy_first (self : Identified document type id) (shifted opts : Value) :
    changeOf .destroy [.map document, shifted, opts] =
      some ⟨.str type, id, .null, if opts.isNull then shifted else opts⟩ := by
  simp only [changeOf, destroyOf, self.selfNaming, self.typed, self.named]

theorem Identified.destroy_second (self : Identified document type id) (opts : Value) :
    changeOf .destroy [.str type, .map document, opts] = some ⟨.str type, id, .null, opts⟩ := by
  simp only [changeOf, destroyOf, Handle.selfNaming, idOf, self.named]

theorem Identified.destroy_plain (self : Identified document type id) (opts : Value) :
    changeOf .destroy [.str type, id, opts] = some ⟨.str type, id, .null, opts⟩ := by
  simp only [changeOf, destroyOf, Handle.selfNaming, idOf_identifier self.valid]

theorem call_forms_agree (h : Handle) (self : Identified document type id) (data opts : Value)
    (given : data.isNull = false) :
    let update (arguments : List Value) := h.invoke .update arguments []
    let destroy (arguments : List Value) := h.invoke .destroy arguments []
    update [.map document, data, opts] = update [.str type, id, data, opts] ∧
    update [.str type, .map document, data, opts] = update [.str type, id, data, opts] ∧
    update [.map document] = update [.str type, id, .map (ownFields document)] ∧
    destroy [.map document, opts] = destroy [.str type, id, opts] ∧
    destroy [.str type, .map document, opts] = destroy [.str type, id, opts] := by
  intro update destroy
  have first := self.update_first data opts .null
  rw [given] at first
  refine ⟨?_, ?_, ?_, ?_, ?_⟩
  · exact invoke_change rfl rfl first (self.update_plain data opts)
  · exact invoke_change rfl rfl (self.update_second data opts) (self.update_plain data opts)
  · exact invoke_change rfl rfl (self.update_first .null .null .null) (self.update_plain _ .null)
  · exact invoke_change rfl rfl (self.destroy_first opts .null) (self.destroy_plain opts)
  · exact invoke_change rfl rfl (self.destroy_second opts) (self.destroy_plain opts)

def seventh : Entries :=
  Entries.ofFields [("_type", .str "user"), ("_id", .null), ("id", .int 7), ("name", .str "Ada")]

theorem seventh_identified : Identified seventh "user" (.int 7) := ⟨rfl, by decide, rfl, rfl⟩

theorem ownFields_seventh : ownFields seventh = Entries.ofFields [("id", .int 7), ("name", .str "Ada")] := by
  simp [ownFields, seventh, Entries.ofFields, Value.display]

def renamed : Entries := Entries.ofFields [("name", .str "Grace")]

def refreshed : Entries := Entries.ofFields [("refresh", .bool true)]

theorem call_forms_agree_seventh :
    let update (arguments : List Value) := users.invoke .update arguments []
    let destroy (arguments : List Value) := users.invoke .destroy arguments []
    let rest := [Value.map renamed, .map refreshed]
    Identified seventh "user" (.int 7) ∧ (Value.map renamed).isNull = false ∧
      update (.map seventh :: rest) = update (.str "user" :: .int 7 :: rest) ∧
      update (.str "user" :: .map seventh :: rest) = update (.str "user" :: .int 7 :: rest) ∧
      update [.map seventh] = update [.str "user", .int 7, .map (ownFields seventh)] ∧
      destroy [.map seventh, .map refreshed] = destroy [.str "user", .int 7, .map refreshed] ∧
      destroy [.str "user", .map seventh, .map refreshed] = destroy [.str "user", .int 7, .map refreshed] := by
  intro update destroy rest
  exact ⟨seventh_identified, rfl, call_forms_agree users seventh_identified (.map renamed) (.map refreshed) rfl⟩

def settled (h : Handle) (type : String) (id : Value) (data : Entries) : Entries :=
  Entries.ofFields [("index", h.index), ("type", .str type), ("id", id), ("body", updateBody data)]

theorem update_sends (h : Handle) (positional : List Value) (named : Entries)
    (fits : Parameter.bind Operation.update.parameters positional named = some values)
    (read : changeOf .update values = some ⟨.str type, id, .map data, extra⟩) (valid : id.isIdentifier = true)
    (texts : Entries.hasTextKeys (withMapping (h.settled type id data) extra) = true) (s : Session) :
    (h.invoke .update positional named s).2.calls =
      s.calls ++ h.sent .update (h.request (withMapping (h.settled type id data) extra)) := by
  rcases changeOf_parts read with ⟨docType, given, shape, rest, -, rfl, change⟩ | ⟨_, _, _, wrong, -, -⟩
  · have sound : flaw .update [docType, given, shape, rest] = none := by
      simp [flaw, subject, change, Value.isText, valid]
    obtain ⟨i, asked, arguments⟩ : ∃ i, h.inquiry .update [docType, given, shape, rest] = .ok i ∧
        i.arguments = h.request (withMapping (h.settled type id data) extra) := by
      simp only [inquiry, change]
      exact ⟨_, rfl, rfl⟩
    have prepared : h.prepare .update [docType, given, shape, rest] = .ok i := by
      unfold prepare
      rw [sound, asked]
      rfl
    rw [invoke_sends fits prepared s, arguments, if_pos (request_named h texts)]
    rfl
  · cases wrong

theorem settled_named (h : Handle) (type : String) (id : Value) (data : Entries) :
    Entries.hasTextKeys (h.settled type id data) = true := rfl

theorem request_settled (h : Handle) (type : String) (id : Value) (data : Entries) :
    h.request (h.settled type id data) =
      Entries.ofFields ([("index", h.index), ("id", id), ("body", updateBody data)] ++
        if h.docTypes then [("doc_type", .str type)] else []) := by
  obtain ⟨_, _, _, _, _, docTypes⟩ := h
  cases docTypes <;> rfl

-- Options show in a request unless they repeat what it says without them. The type is left aside, which
-- has rules of its own.
theorem request_unchanged_iff (h : Handle) (payload : Entries) (distinct : opts.Distinct) :
    (∀ name, "type" ≠ name → "doc_type" ≠ name → Entries.get? (h.request payload) name =
        Entries.get? (h.request (Entries.merge payload opts)) name) ↔
      ∀ name v, "type" ≠ name → "doc_type" ≠ name → Entries.get? opts name = some v →
        Entries.get? (h.request payload) name = some v := by
  have laid : ∀ name, "type" ≠ name → "doc_type" ≠ name →
      Entries.get? (h.request (Entries.merge payload opts)) name =
        (Entries.get? opts name).or (Entries.get? (h.request payload) name) := by
    intro name apart apart'
    rw [request_get? h apart apart', request_get? h apart apart', Entries.get?_merge distinct]
  constructor
  · intro same name v apart apart' said
    rw [same name apart apart', laid name apart apart', said]
    rfl
  · intro repeated name apart apart'
    rw [laid name apart apart']
    cases said : Entries.get? opts name with
    | none => rfl
    | some v => exact repeated name v apart apart' said

theorem Identified.destroy_named (h : Handle) (self : Identified document type id) (opts : Entries) :
    h.invoke .destroy [.map document] (Entries.ofFields [("opts", .map opts)]) =
      h.invoke .destroy [.str type, id, .map opts] [] :=
  invoke_change rfl rfl (self.destroy_first .null (.map opts)) (self.destroy_plain (.map opts))

-- Unlike a deletion, an update by document does not find options that are named, and takes named data for options. The
-- request is the one that was asked for only where the options repeat what it says anyway.
theorem named_arguments_displaced (h : Handle) (self : Identified document type id) (data : Entries)
    (distinct : opts.Distinct) (texts : Entries.hasTextKeys opts = true) (s : Session) :
    let behind := h.invoke .update [.map document, .map data] (Entries.ofFields [("opts", .map opts)])
    let alone := h.invoke .update [.map document] (Entries.ofFields [("data", .map data), ("opts", .map opts)])
    let direct := h.invoke .update [.str type, id, .map data, .map opts] []
    let lost := h.request (h.settled type id data)
    let asked := h.request (Entries.merge (h.settled type id data) opts)
    behind = h.invoke .update [.str type, id, .map data] [] ∧
    alone = h.invoke .update [.str type, id, .map (ownFields document), .map data] [] ∧
    (behind s).2.calls = s.calls ++ h.sent .update lost ∧ (direct s).2.calls = s.calls ++ h.sent .update asked ∧
    ((∀ name, "type" ≠ name → "doc_type" ≠ name → Entries.get? lost name = Entries.get? asked name) ↔
      ∀ name v, "type" ≠ name → "doc_type" ≠ name → Entries.get? opts name = some v →
        Entries.get? lost name = some v) := by
  intro behind alone direct lost asked
  have plain := settled_named h type id data
  refine ⟨?_, ?_, ?_, ?_, request_unchanged_iff h _ distinct⟩
  · exact invoke_change rfl rfl (self.update_first (.map data) .null (.map opts)) (self.update_plain _ .null)
  · exact invoke_change rfl rfl (self.update_first .null (.map data) (.map opts)) (self.update_plain _ (.map data))
  · exact update_sends h [.map document, .map data] (Entries.ofFields [("opts", .map opts)]) rfl
      (self.update_first (.map data) .null (.map opts)) self.valid plain s
  · exact update_sends h [.str type, id, .map data, .map opts] [] rfl
      (self.update_plain (.map data) (.map opts)) self.valid (Entries.hasTextKeys_merge plain texts) s

theorem named_arguments_displaced_refreshed :
    let behind := users.invoke .update [.map seventh, .map renamed] (Entries.ofFields [("opts", .map refreshed)])
    let alone := users.invoke .update [.map seventh]
      (Entries.ofFields [("data", .map renamed), ("opts", .map refreshed)])
    let direct := users.invoke .update [.str "user", .int 7, .map renamed, .map refreshed] []
    let lost := users.request (users.settled "user" (.int 7) renamed)
    let asked := users.request (Entries.merge (users.settled "user" (.int 7) renamed) refreshed)
    Identified seventh "user" (.int 7) ∧ refreshed.Distinct ∧ Entries.hasTextKeys refreshed = true ∧
      behind = users.invoke .update [.str "user", .int 7, .map renamed] [] ∧
      alone = users.invoke .update [.str "user", .int 7, .map (ownFields seventh), .map renamed] [] ∧
      (behind {}).2.calls = [⟨.given, .update, lost⟩] ∧ (direct {}).2.calls = [⟨.given, .update, asked⟩] ∧
      ¬∀ name, "type" ≠ name → "doc_type" ≠ name → Entries.get? lost name = Entries.get? asked name := by
  intro behind alone direct lost asked
  have distinct : refreshed.Distinct := by decide
  obtain ⟨dropped, shifted, made, wanted, unchanged⟩ :=
    named_arguments_displaced users seventh_identified renamed distinct rfl {}
  refine ⟨seventh_identified, distinct, rfl, dropped, shifted, made, wanted, ?_⟩
  intro same
  cases unchanged.mp same "refresh" (.bool true) (by decide) (by decide) rfl

theorem named_options_lost :
    let direct := users.invoke .update [.str "user", .int 7, .map renamed, .map refreshed] [] {}
    let behind := users.invoke .update [.map seventh, .map renamed] (Entries.ofFields [("opts", .map refreshed)]) {}
    let alone :=
      users.invoke .update [.map seventh] (Entries.ofFields [("data", .map renamed), ("opts", .map refreshed)]) {}
    let request (body : Value) (more : List (String × Value)) := Entries.ofFields
      ([("index", .str "users"), ("id", .int 7), ("body", .record [("doc", body)])] ++ more ++
        [("doc_type", .str "user")])
    direct.2.calls = [⟨.given, .update, request (.map renamed) [("refresh", .bool true)]⟩] ∧
      behind.2.calls = [⟨.given, .update, request (.map renamed) []⟩] ∧
      alone.2.calls =
        [⟨.given, .update, request (.record [("id", .int 7), ("name", .str "Ada")]) [("name", .str "Grace")]⟩] ∧
      behind.2.calls ≠ direct.2.calls ∧ alone.2.calls ≠ direct.2.calls := by
  intro direct behind alone request
  have asked : direct.2.calls = [⟨.given, .update, request (.map renamed) [("refresh", .bool true)]⟩] := rfl
  have lost : behind.2.calls = [⟨.given, .update, request (.map renamed) []⟩] := rfl
  have mixed : alone.2.calls =
      [⟨.given, .update, request (.record [("id", .int 7), ("name", .str "Ada")]) [("name", .str "Grace")]⟩] := by
    have read := seventh_identified.update_first .null (.map renamed) (.map refreshed)
    dsimp only [Value.isNull, if_true] at read
    rw [ownFields_seventh] at read
    exact update_sends users [.map seventh] (Entries.ofFields [("data", .map renamed), ("opts", .map refreshed)]) rfl
      read rfl rfl {}
  refine ⟨asked, lost, mixed, ?_, ?_⟩
  · rw [lost, asked]
    simp [request, Entries.ofFields]
  · rw [mixed, asked]
    simp [request, Entries.ofFields, renamed, Value.record]

theorem has_ownFields (document : Entries) (name : String) (plain : name.startsWith "_" = false) :
    Entries.has (ownFields document) name = Entries.has document name := by
  unfold Entries.has
  induction document with
  | nil => rfl
  | cons entry rest ih =>
    obtain ⟨key, value⟩ := entry
    unfold ownFields at ih ⊢
    rw [Entries.get?_cons]
    by_cases here : key.sameKey (.str name)
    · have kept : key.display.startsWith "_" = false := by
        rw [Value.sameKey_str.mp here]
        exact plain
      simp [kept, Entries.get?_cons, here]
    · by_cases engine : key.display.startsWith "_"
      · simpa [List.filter_cons, engine, here] using ih
      · simpa [List.filter_cons, engine, here, Entries.get?_cons] using ih

-- What is sent as it is never looks like a partial document, not even by accident.
theorem whole_apart (data : Entries) (special : (Entries.has data "script" || Entries.has data "upsert") = true) :
    Value.map data ≠ .record [("doc", .map data)] := by
  intro same
  have fields : data = [(.str "doc", .map data)] := Value.map.inj same
  rw [fields] at special
  cases special

-- The one request of an update by the document alone. It is a partial document unless the document has a
-- field that belongs to another kind of update; then its fields are sent as such an update.
theorem document_alone_updates (h : Handle) (self : Identified document type id) (s : Session) :
    ∃ body, (h.invoke .update [.map document] [] s).2.calls =
        s.calls ++ h.sent .update (Entries.ofFields ([("index", h.index), ("id", id), ("body", body)] ++
          if h.docTypes then [("doc_type", .str type)] else [])) ∧
      (body = .record [("doc", .map (ownFields document))] ↔
        (Entries.has document "script" || Entries.has document "upsert") = false) ∧
      ((Entries.has document "script" || Entries.has document "upsert") = true →
        body = .map (ownFields document)) := by
  have sends := update_sends h [.map document] [] rfl (self.update_first .null .null .null) self.valid
    (settled_named h type id (ownFields document)) s
  dsimp only [withMapping] at sends
  rw [request_settled] at sends
  have script := has_ownFields document "script" (by simp)
  have upsert := has_ownFields document "upsert" (by simp)
  have apart := whole_apart (ownFields document)
  refine ⟨updateBody (ownFields document), sends, ?_⟩
  unfold updateBody
  rw [script, upsert] at apart ⊢
  cases special : Entries.has document "script" || Entries.has document "upsert" with
  | false => simp
  | true => simpa using apart special

def play : Entries := Entries.ofFields
  [("_type", .str "user"), ("_id", .str "u1"), ("title", .str "Ada"), ("script", .str "Act I")]

theorem play_identified : Identified play "user" (.str "u1") := ⟨rfl, by decide, rfl, rfl⟩

theorem document_alone_updates_seventh :
    Identified seventh "user" (.int 7) ∧
      ∃ body, (users.invoke .update [.map seventh] [] {}).2.calls = [⟨.given, .update,
          Entries.ofFields [("index", .str "users"), ("id", .int 7), ("body", body), ("doc_type", .str "user")]⟩] ∧
        body = .record [("doc", .map (ownFields seventh))] := by
  obtain ⟨body, calls, partialWrite, -⟩ := document_alone_updates users seventh_identified {}
  exact ⟨seventh_identified, body, calls, partialWrite.mpr rfl⟩

theorem stored_script_sent :
    Identified play "user" (.str "u1") ∧
      ∃ body, (users.invoke .update [.map play] [] {}).2.calls = [⟨.given, .update,
          Entries.ofFields [("index", .str "users"), ("id", .str "u1"), ("body", body), ("doc_type", .str "user")]⟩] ∧
        body = .record [("title", .str "Ada"), ("script", .str "Act I")] ∧
        body ≠ .record [("doc", .map (ownFields play))] := by
  have fields : ownFields play = Entries.ofFields [("title", .str "Ada"), ("script", .str "Act I")] := by
    simp [ownFields, play, Entries.ofFields, Value.display]
  have read := play_identified.update_first .null .null .null
  dsimp only [Value.isNull, if_true] at read
  rw [fields] at read
  have sends := update_sends users [.map play] [] rfl read rfl rfl {}
  refine ⟨play_identified, .record [("title", .str "Ada"), ("script", .str "Act I")], sends, rfl, ?_⟩
  simp [Value.record]

end Handle
end SearchStore
