import SearchStore.Proofs.Result.Listing
namespace SearchStore

theorem Entries.hasTextKeys_set_eq (entries : Entries) (name : String) (v : Value) :
    (entries.set name v).hasTextKeys = entries.hasTextKeys := by
  induction entries with
  | nil => rfl
  | cons entry rest ih =>
    obtain ⟨key, old⟩ := entry
    unfold hasTextKeys at ih ⊢
    rw [set_cons]
    split
    · rfl
    · rw [List.all_cons, List.all_cons, ih]

namespace Value
variable {v item : Value} {items : List Value} {entries : Entries}

inductive Json : Value → Prop
  | null : Json .null
  | bool (b : Bool) : Json (.bool b)
  | int (n : Int) : Json (.int n)
  | float (x : Binary64) : Json (.float x)
  | str (s : String) : Json (.str s)
  | list {items : List Value} (each : ∀ item ∈ items, Json item) : Json (.list items)
  | object {entries : Entries} (plain : entries.Plain) (each : ∀ entry ∈ entries, Json entry.2) : Json (.map entries)

theorem Json.plain (json : Json (.map entries)) : entries.Plain := by
  cases json with
  | object plain each => exact plain

theorem Json.get (json : Json (.map entries)) (name : String) : (Entries.get entries name).Json := by
  unfold Entries.get
  cases found : Entries.get? entries name with
  | none => exact .null
  | some v =>
    cases json with
    | object plain each => exact each _ (Entries.mem_of_get? found)

theorem Json.named (json : v.Json) : (v.entries?.getD []).hasTextKeys = true := by
  cases json with
  | object plain each => exact plain.named
  | _ => rfl

def isPair (item : Value) : Bool :=
  match item.items with
  | .ok [key, _] => key.isKey
  | _ => false

def isPaired (v : Value) : Bool :=
  !v.isMapping && match v.items with
    | .ok items => items.all isPair
    | .error _ => false

theorem isPair_iff : item.isPair = true ↔ ∃ entry, item.entry = .ok entry := by
  unfold isPair entry
  cases item.items with
  | error fault => simp
  | ok parts =>
    rcases parts with _ | ⟨key, _ | ⟨v, _ | ⟨third, rest⟩⟩⟩
    · simp
    · simp
    · dsimp only
      split <;> simp [*]
    · simp

theorem putItems_ok (items : List Value) (entries : Entries) :
    (∃ made, items.foldlM Entries.putItem entries = .ok made) ↔ items.all isPair = true := by
  induction items generalizing entries with
  | nil => simp [pure, Except.pure]
  | cons item rest ih =>
    rw [List.foldlM_cons, List.all_cons, Bool.and_eq_true, isPair_iff, Entries.putItem]
    cases item.entry with
    | error fault => simp [bind, Except.bind]
    | ok entry =>
      have written := ih (Entries.put entries entry.1 entry.2)
      simpa [bind, Except.bind, pure, Except.pure] using written

theorem toEntries_other (other : v.isMapping = false) :
    v.toEntries = v.items.bind fun items => items.foldlM Entries.putItem [] := by
  cases v with
  | map entries => cases other
  | _ => rfl

theorem toEntries_ok_iff : (∃ entries, v.toEntries = .ok entries) ↔ v.isMapping = true ∨ v.isPaired = true := by
  cases kind : v.isMapping with
  | true =>
    cases v with
    | map entries => exact iff_of_true ⟨entries, rfl⟩ (.inl rfl)
    | _ => cases kind
  | false =>
    rw [toEntries_other kind, isPaired, kind]
    cases v.items with
    | error fault => simp [Except.bind]
    | ok items => simpa [Except.bind] using putItems_ok items []

def asEntries (v : Value) : Entries := v.toEntries.toOption.getD []

theorem asEntries_taken (taken : v.toEntries = .ok entries) : v.asEntries = entries := by
  unfold asEntries
  rw [taken]
  rfl

theorem Json.named_mapping (json : v.Json) (mapping : v.isMapping = true) : v.asEntries.hasTextKeys = true := by
  cases json with
  | object plain each => exact plain.named
  | _ => cases mapping

end Value

namespace Hit
variable {hit : Value} {item document : Entries} {onlySource includeId : Bool}

def legible (onlySource : Bool) (item : Entries) : Bool :=
  if alone onlySource item then (Entries.get item "_source").isMapping || (Entries.get item "_source").isPaired
  else !((Entries.get item "fields").truthy && !(Entries.get item "fields").isMapping)

-- A hit that is a mapping, but has a source that is none and brings a key that is no text; or one that is no
-- mapping and becomes a document.
def misread (onlySource : Bool) : Value → Bool
  | .map item =>
    let source := Entries.get item "_source"
    alone onlySource item && (source.isPaired && !source.asEntries.hasTextKeys)
  | hit => hit.isPaired && legible onlySource hit.asEntries

theorem misread_map (onlySource : Bool) (item : Entries) : misread onlySource (.map item) =
    (alone onlySource item && ((Entries.get item "_source").isPaired &&
      !(Entries.get item "_source").asEntries.hasTextKeys)) := rfl

theorem misread_other (other : hit.isMapping = false) :
    misread onlySource hit = (hit.isPaired && legible onlySource hit.asEntries) := by
  cases hit with
  | map item => cases other
  | _ => rfl

theorem document?_taken (taken : hit.toEntries = .ok item) :
    document? hit onlySource includeId = document? (.map item) onlySource includeId := by
  unfold document? read
  rw [taken]
  rfl

theorem document?_untaken {fault : Fault} (untaken : hit.toEntries = .error fault) :
    document? hit onlySource includeId = none := by
  unfold document? read
  rw [untaken]
  rfl

theorem document?_legible :
    (∃ document, document? (.map item) onlySource includeId = some document) ↔ legible onlySource item = true := by
  unfold document? legible
  cases sourced : alone onlySource item with
  | true =>
    rw [read_alone sourced, if_pos rfl, Bool.or_eq_true, ← Value.toEntries_ok_iff]
    cases (Entries.get item "_source").toEntries <;> simp [Except.map, Except.toOption]
  | false =>
    rw [read_whole sourced, lifted_unsorted, if_neg Bool.false_ne_true]
    cases (Entries.get item "fields").truthy && !(Entries.get item "fields").isMapping <;>
      simp [Except.map, Except.toOption]

theorem named_titled (includeId : Bool) (document : Entries) (id : Value) :
    (titled includeId document id).hasTextKeys = document.hasTextKeys := by
  cases includeId with
  | false => rfl
  | true => exact Entries.hasTextKeys_set_eq document "id" id

theorem document_named (json : (Value.map item).Json)
    (accepted : document? (.map item) onlySource includeId = some document) :
    document.hasTextKeys = !misread onlySource (.map item) := by
  have done := read_of_document accepted
  rw [misread_map]
  cases sourced : alone onlySource item with
  | true =>
    rw [read_alone sourced] at done
    cases made : (Entries.get item "_source").toEntries with
    | error fault =>
      rw [made] at done
      cases done
    | ok source =>
      rw [made] at done
      cases done
      have paired := Value.toEntries_ok_iff.mp ⟨source, made⟩
      rw [named_titled, ← Value.asEntries_taken made]
      cases kind : (Entries.get item "_source").isMapping with
      | true =>
        rw [(json.get "_source").named_mapping kind, Value.isPaired, kind]
        rfl
      | false =>
        rw [paired.resolve_left (by simp [kind])]
        simp
  | false =>
    rw [read_whole sourced, lifted_unsorted] at done
    split at done
    · cases done
    · cases done
      have bare : (bare item).hasTextKeys = true :=
        Entries.hasTextKeys_without (Entries.hasTextKeys_without json.plain.named)
      rw [named_titled]
      exact Entries.hasTextKeys_merge bare (json.get "fields").named

theorem misread_document (includeId : Bool) (misread : misread onlySource (.map item) = true) :
    ∃ document, document? (.map item) onlySource includeId = some document := by
  rw [misread_map, Bool.and_eq_true, Bool.and_eq_true] at misread
  obtain ⟨sourced, paired, -⟩ := misread
  apply document?_legible.mpr
  rw [legible, if_pos sourced, paired, Bool.or_true]

theorem document?_other (includeId : Bool) (other : hit.isMapping = false) :
    (∃ document, document? hit onlySource includeId = some document) ↔ misread onlySource hit = true := by
  have readable : (∃ entries, hit.toEntries = .ok entries) ↔ hit.isPaired = true := by
    simpa [other] using Value.toEntries_ok_iff (v := hit)
  rw [misread_other other, Bool.and_eq_true, ← readable]
  cases taken : hit.toEntries with
  | error fault => simp [document?_untaken taken]
  | ok item => simpa [document?_taken taken, Value.asEntries_taken taken] using document?_legible

end Hit

namespace ResultSet
variable {response : Value} {total : Int} {hits : List Value} {onlySource includeId : Bool}

theorem isValid_checked (documents : List Entries) : (checked documents).isValid = documents.all Entries.hasTextKeys := by
  unfold checked
  rw [Verdict.isValid_inside, Reading.isValid_sequenceOf, List.all_map]
  congr 1
  funext document
  exact Reading.isValid_mapping document

-- Nothing but mappings becomes a document, and the list is the one that the mappings alone would give.
def Clean (total : Int) (hits : List Value) (response : Value) (onlySource includeId : Bool) : Prop :=
  ∃ listed, ofResponse response onlySource includeId .null = .ok listed ∧
    (∀ hit ∈ hits, hit.isMapping = false → hit ∈ skipped response onlySource includeId) ∧
    ∀ cleared, Answers total (hits.filter Value.isMapping) cleared →
      ofResponse cleared onlySource includeId .null = .ok listed

theorem ofResponse_listed (answers : Answers total hits response) :
    (∃ listed, ofResponse response onlySource includeId .null = .ok listed) ↔
      ∀ document ∈ documentsOf onlySource includeId hits, Entries.hasTextKeys document = true := by
  rw [ofResponse_unpaged answers, ← List.all_eq_true, ← isValid_checked]
  cases checked (documentsOf onlySource includeId hits) <;> simp [Verdict.result, Verdict.isValid, Except.map]

theorem mem_skipped (answers : Answers total hits response) (hit : Value) :
    hit ∈ skipped response onlySource includeId ↔ hit ∈ hits ∧ Hit.document? hit onlySource includeId = none := by
  obtain ⟨_, -, -, listed⟩ := answers.read
  unfold skipped
  rw [listed]
  simp

theorem documentsOf_mappings
    (others : ∀ hit ∈ hits, hit.isMapping = false → Hit.document? hit onlySource includeId = none) :
    documentsOf onlySource includeId (hits.filter Value.isMapping) = documentsOf onlySource includeId hits := by
  unfold documentsOf
  rw [List.filterMap_filter]
  apply List.filterMap_congr
  intro hit member
  cases kind : hit.isMapping with
  | true => rfl
  | false => rw [others hit member kind]; rfl

theorem clean_unless_misread (answers : Answers total hits response) (json : ∀ hit ∈ hits, hit.Json)
    (onlySource includeId : Bool) :
    Clean total hits response onlySource includeId ↔ ∀ hit ∈ hits, Hit.misread onlySource hit = false := by
  constructor
  · rintro ⟨listed, accepted, skipped, -⟩ hit member
    have named := (ofResponse_listed answers).mp ⟨listed, accepted⟩
    apply Bool.eq_false_iff.mpr
    intro misread
    cases hit with
    | map item =>
      obtain ⟨document, read⟩ := Hit.misread_document includeId misread
      have unnamed := Hit.document_named (json _ member) read
      rw [misread, named document (List.mem_filterMap.mpr ⟨_, member, read⟩)] at unnamed
      cases unnamed
    | _ =>
      obtain ⟨document, read⟩ := (Hit.document?_other includeId rfl).mpr misread
      have absent := ((mem_skipped answers _).mp (skipped _ member rfl)).2
      rw [read] at absent
      cases absent
  · intro wellRead
    have others : ∀ hit ∈ hits, hit.isMapping = false → Hit.document? hit onlySource includeId = none := by
      intro hit member other
      apply Option.eq_none_iff_forall_ne_some.mpr
      intro document read
      have misread := (Hit.document?_other includeId other).mp ⟨document, read⟩
      rw [wellRead hit member] at misread
      cases misread
    have named : ∀ document ∈ documentsOf onlySource includeId hits, Entries.hasTextKeys document = true := by
      intro document listed
      obtain ⟨hit, member, read⟩ := List.mem_filterMap.mp listed
      cases hit with
      | map item =>
        rw [Hit.document_named (json _ member) read, wellRead _ member]
        rfl
      | _ =>
        rw [others _ member rfl] at read
        cases read
    obtain ⟨listed, accepted⟩ := (ofResponse_listed answers).mpr named
    refine ⟨listed, accepted, ?_, ?_⟩
    · intro hit member other
      exact (mem_skipped answers hit).mpr ⟨member, others hit member other⟩
    · intro cleared answered
      rw [ofResponse_unpaged answered, documentsOf_mappings others, ← ofResponse_unpaged answers]
      exact accepted

def strays : List Value :=
  [.record [("_id", .str "u1")], .null, .str "u2", .list [.int 3], .list [.list [.str "fields", .int 5]],
    .record [("_source", .list [.list [.str "name", .str "Ada"]])]]

theorem strays_json : ∀ hit ∈ strays, hit.Json := by
  intro hit member
  simp only [strays, List.mem_cons, List.not_mem_nil, or_false] at member
  rcases member with rfl | rfl | rfl | rfl | rfl | rfl
  · exact .object (by decide) (by simpa using .str "u1")
  · exact .null
  · exact .str "u2"
  · exact .list (by simpa using .int 3)
  · exact .list (by simpa using .list (by simpa using ⟨.str "fields", .int 5⟩))
  · have pair : Value.Json (.list [.str "name", .str "Ada"]) := .list (by simpa using ⟨.str "name", .str "Ada"⟩)
    exact .object (by decide) (by simpa using .list (by simpa using pair))

theorem clean_unless_misread_strays :
    let response : Value := .record [("hits", .record [("total", .int 6), ("hits", .list strays)])]
    Answers 6 strays response ∧ (∀ hit ∈ strays, hit.Json) ∧ Clean 6 strays response true true := by
  intro response
  have answers : Answers 6 strays response := .mk rfl rfl .number rfl
  exact ⟨answers, strays_json, (clean_unless_misread answers strays_json true true).mpr (by decide)⟩

theorem pairs_pose :
    let page (hit : Value) : Value := .record [("hits", .record [("total", .int 1), ("hits", .list [hit])])]
    ofResponse (page (.list [])) false false .null = .ok ⟨[[]], ⟨1, 1, none, none⟩⟩ ∧
      ofResponse (page (.list [.list [.int 1, .int 2]])) false false .null =
        .error (.invalid [⟨[.field "result", .position 0, .position 1, .field "[key]"], .textExpected⟩]) :=
  ⟨rfl, rfl⟩

end ResultSet
end SearchStore
