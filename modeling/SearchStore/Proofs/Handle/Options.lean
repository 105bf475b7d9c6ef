import SearchStore.Proofs.Handle.Address
namespace SearchStore
open SearchStore.Action Session

def Operation.writesOne : Operation → Bool
  | .create | .update | .destroy => true
  | _ => false

namespace Handle

-- The fields that a write settles by itself: which document it is about and what becomes of it.
def fixed (h : Handle) : Operation → List Value → Entries
  | .create, [_, data, _] => Entries.ofFields [("index", h.index), ("body", .map (data.entries?.getD []))]
  | .update, [docType, id, data, opts] =>
    let change := updateOf docType id data opts
    Entries.ofFields [("index", h.index), ("id", change.id), ("body", updateBody (change.data.entries?.getD []))]
  | .destroy, [docType, id, opts] =>
    Entries.ofFields [("index", h.index), ("id", (destroyOf docType id opts).id)]
  | _, _ => []

def options : Operation → List Value → Value
  | .create, [_, _, opts] => opts
  | .update, [docType, id, data, opts] => (updateOf docType id data opts).opts
  | .destroy, [docType, id, opts] => (destroyOf docType id opts).opts
  | _, _ => .null

def idField (data : Entries) : Entries :=
  match Entries.get? data "id" with
  | some id => Entries.ofFields [("id", id)]
  | none => []

-- The id that a new document brings along. It is written last.
def brought : Operation → List Value → Entries
  | .create, [_, data, _] => idField (data.entries?.getD [])
  | _, _ => []

section Payloads
variable {h : Handle} {op : Operation} {values : List Value} {payload base data more : Entries} {name : String}
  {v : Value}

theorem get?_idField (apart : "id" ≠ name) : Entries.get? (idField data) name = none := by
  unfold idField
  split
  · rw [Entries.get?_ofFields_cons, if_neg apart]
    rfl
  · rfl

theorem get?_withOwnId : Entries.get? (withOwnId payload data) name =
    (Entries.get? (idField data) name).or (Entries.get? payload name) := by
  unfold withOwnId idField
  cases Entries.get? data "id" with
  | none => rfl
  | some id =>
    dsimp only
    rw [Entries.get?_set, Entries.get?_ofFields_cons]
    split <;> rfl

theorem withOptions_map : withOptions base (.map more) = .ok (Entries.merge base more) := by
  cases more with
  | nil => rfl
  | cons entry rest => rfl

theorem fixed_apart (settled : Entries.get? (h.fixed op values) name = some v) :
    "type" ≠ name ∧ "doc_type" ≠ name ∧ Entries.get? (brought op values) name = none := by
  unfold fixed at settled
  split at settled
  · have place : name = "index" ∨ name = "body" := by simpa using Entries.get?_ofFields_mem settled
    rcases place with rfl | rfl <;> exact ⟨by decide, by decide, get?_idField (by decide)⟩
  · have place : name = "index" ∨ name = "id" ∨ name = "body" := by
      simpa using Entries.get?_ofFields_mem settled
    rcases place with rfl | rfl | rfl <;> exact ⟨by decide, by decide, rfl⟩
  · have place : name = "index" ∨ name = "id" := by simpa using Entries.get?_ofFields_mem settled
    rcases place with rfl | rfl <;> exact ⟨by decide, by decide, rfl⟩
  · cases settled

-- What a request says: what the document brings, else what the options say, else what the write has settled.
-- The type is left aside, which has rules of its own.
def Tells (h : Handle) (op : Operation) (values : List Value) (more arguments : Entries) : Prop :=
  ∀ name, "type" ≠ name → "doc_type" ≠ name → Entries.get? arguments name =
    (Entries.get? (brought op values) name).or
      ((Entries.get? more name).or (Entries.get? (h.fixed op values) name))

theorem request_tells (distinct : more.Distinct)
    (settled : ∀ name, "type" ≠ name → Entries.get? base name = Entries.get? (h.fixed op values) name)
    (laid : ∀ name, Entries.get? payload name =
      (Entries.get? (brought op values) name).or (Entries.get? (Entries.merge base more) name)) :
    h.Tells op values more (h.request payload) := by
  intro name type docType
  rw [request_get? h type docType, laid name, Entries.get?_merge distinct, settled name type]

theorem hasTextKeys_withOwnId (texts : Entries.hasTextKeys payload = true) :
    Entries.hasTextKeys (withOwnId payload data) = true := by
  unfold withOwnId
  split
  · exact Entries.hasTextKeys_set texts
  · exact texts

theorem inquiry_tells (single : op.writesOne = true) (fits : values.length = op.parameters.length)
    (given : options op values = .map more) (distinct : more.Distinct) :
    ∃ i, h.inquiry op values = .ok i ∧ h.Tells op values more i.arguments ∧
      (Entries.hasTextKeys more = true → Entries.hasTextKeys i.arguments = true) := by
  cases op with
  | create =>
    obtain ⟨docType, data, opts, rfl⟩ := List.length_eq_three.mp fits
    cases given
    unfold inquiry
    dsimp only
    rw [withOptions_map]
    refine ⟨_, rfl, ?_, fun texts => ?_⟩
    · refine request_tells distinct (fun name type => ?_) fun _ => get?_withOwnId
      simp [fixed, Entries.get?_ofFields_cons, type]
    · exact request_named h (hasTextKeys_withOwnId (Entries.hasTextKeys_merge rfl texts))
  | update =>
    match values, fits with
    | [docType, id, data, opts], _ =>
      have mapping : (updateOf docType id data opts).opts = .map more := given
      unfold inquiry
      dsimp only
      rw [mapping]
      refine ⟨_, rfl, request_tells distinct (fun name type => ?_) fun _ => rfl, fun texts => ?_⟩
      · simp [fixed, Entries.get?_ofFields_cons, type]
      · exact request_named h (Entries.hasTextKeys_merge rfl texts)
  | destroy =>
    obtain ⟨docType, id, opts, rfl⟩ := List.length_eq_three.mp fits
    have mapping : (destroyOf docType id opts).opts = .map more := given
    unfold inquiry
    dsimp only
    rw [mapping]
    refine ⟨_, rfl, request_tells distinct (fun name type => ?_) fun _ => rfl, fun texts => ?_⟩
    · simp [fixed, Entries.get?_ofFields_cons, type]
    · exact request_named h (Entries.hasTextKeys_merge rfl texts)
  | _ => cases single

-- Where the options do not contradict it, and nowhere else, a request says what the write has settled.
theorem Tells.kept_iff {arguments : Entries} (tells : h.Tells op values more arguments) :
    (∀ name v, Entries.get? (h.fixed op values) name = some v → Entries.get? arguments name = some v) ↔
      ∀ name v w, Entries.get? (h.fixed op values) name = some v → Entries.get? more name = some w → w = v := by
  have said {name : String} {v : Value} (settled : Entries.get? (h.fixed op values) name = some v) :
      Entries.get? arguments name = some ((Entries.get? more name).getD v) := by
    obtain ⟨type, docType, unbrought⟩ := fixed_apart settled
    rw [tells name type docType, unbrought, settled]
    cases Entries.get? more name <;> rfl
  constructor
  · intro kept name v w settled named
    have same := (said settled).symm.trans (kept name v settled)
    rw [named] at same
    exact Option.some.inj same
  · intro agrees name v settled
    rw [said settled]
    cases named : Entries.get? more name with
    | none => rfl
    | some w => rw [agrees name v w settled named, Option.getD_some]

end Payloads

theorem options_prevail (h : Handle) (op : Operation) {positional values : List Value} {named more : Entries}
    (single : op.writesOne = true) (fits : Parameter.bind op.parameters positional named = some values)
    (sound : flaw op values = none) (given : options op values = .map more) (distinct : more.Distinct)
    (s : Session) :
    ∃ arguments, (h.invoke op positional named s).2.calls =
        s.calls ++ (if Entries.hasTextKeys arguments then h.sent op.method arguments else []) ∧
      (Entries.hasTextKeys more = true → Entries.hasTextKeys arguments = true) ∧
      h.Tells op values more arguments ∧
      ((∀ name v, Entries.get? (h.fixed op values) name = some v → Entries.get? arguments name = some v) ↔
        ∀ name v w, Entries.get? (h.fixed op values) name = some v → Entries.get? more name = some w → w = v) := by
  obtain ⟨i, asked, tells, texts⟩ := inquiry_tells single (Parameter.bind_length fits) given distinct
  have prepared : h.prepare op values = .ok i := by
    unfold prepare
    rw [sound, asked]
    rfl
  exact ⟨i.arguments, invoke_sends fits prepared s, texts, tells, tells.kept_iff⟩

def elsewhere : Entries := Entries.ofFields [("index", .str "orders"), ("id", .str "u2")]

theorem options_prevail_elsewhere :
    let values := [Value.str "user", .str "u1", .map elsewhere]
    Operation.destroy.writesOne = true ∧
      Parameter.bind Operation.destroy.parameters values [] = some values ∧
      flaw .destroy values = none ∧ options .destroy values = .map elsewhere ∧ elsewhere.Distinct ∧
      ∃ arguments, (users.invoke .destroy values [] {}).2.calls = [⟨.given, .delete, arguments⟩] ∧
        Entries.get? arguments "index" = some (.str "orders") ∧
        Entries.get? arguments "id" = some (.str "u2") := by
  intro values
  have fits : Parameter.bind Operation.destroy.parameters values [] = some values := rfl
  have distinct : elsewhere.Distinct := by decide
  obtain ⟨arguments, calls, texts, tells, -⟩ := options_prevail users .destroy rfl fits rfl rfl distinct {}
  rw [texts rfl] at calls
  exact ⟨rfl, fits, rfl, rfl, distinct, arguments, calls, tells "index" (by decide) (by decide),
    tells "id" (by decide) (by decide)⟩

theorem options_redirect :
    let values := [Value.str "user", .str "u1", .map elsewhere]
    flaw .destroy values = none ∧ Entries.get? (users.fixed .destroy values) "index" = some users.index ∧
      Entries.get? (users.fixed .destroy values) "id" = some (.str "u1") ∧
      ∃ call, (users.invoke .destroy values [] {}).2.calls = [call] ∧
        Entries.get? call.arguments "index" ≠ some users.index ∧
        Entries.get? call.arguments "id" ≠ some (.str "u1") := by
  intro values
  have redirected : (users.invoke .destroy values [] {}).2.calls =
      [⟨.given, .delete, elsewhere ++ Entries.ofFields [("doc_type", .str "user")]⟩] := rfl
  refine ⟨rfl, rfl, rfl, _, redirected, ?_, ?_⟩
  · intro same
    exact absurd (Value.str.inj (Option.some.inj same)) (by decide)
  · intro same
    exact absurd (Value.str.inj (Option.some.inj same)) (by decide)

end Handle
end SearchStore
