import Mathlib.Data.List.Forall2
import SearchStore.Result.Listing
import SearchStore.Proofs.Reading
import SearchStore.Proofs.Result.Documents
namespace SearchStore

namespace ResultSet
variable {response payload body : Value} {total : Int} {hits : List Value} {page : Page.Meta}

-- The engine reports how many documents match as a number or as a mapping that holds it.
inductive Reported (total : Int) : Value → Prop
  | number : Reported total (.int total)
  | mapping {report : Entries} (value : Entries.get? report "value" = some (.int total)) : Reported total (.map report)

inductive Answers (total : Int) (hits : List Value) : Value → Prop
  | mk {response summary : Entries} {report : Value} (found : Entries.get? response "hits" = some (.map summary))
      (counted : Entries.get? summary "total" = some report) (reported : Reported total report)
      (listed : Entries.get? summary "hits" = some (.list hits)) : Answers total hits (.map response)

theorem total_reported {summary : Entries} {report : Value} (counted : Entries.get? summary "total" = some report)
    (reported : Reported total report) : Page.total (.map summary) = .ok total := by
  have whole : ((Value.int total).orElse (.int 0)).toWhole = .ok total := by
    unfold Value.orElse
    split
    · rfl
    · rename_i zero
      have same : total = 0 := by simpa [Value.truthy] using zero
      rw [same]
      rfl
  unfold Page.total
  simp only [Value.member, Entries.get, counted, Option.getD_some, bind, Except.bind]
  cases reported with
  | number => exact whole
  | mapping value =>
    dsimp only
    rw [value]
    exact whole

theorem Answers.read (answers : Answers total hits response) :
    ∃ summary, ResultSet.hits response = .ok summary ∧ Page.total summary = .ok total ∧
      hitList response = .ok hits := by
  cases answers with
  | @mk response summary report found counted reported listed =>
    have nonempty : summary.isEmpty = false := by
      cases summary with
      | nil => cases counted
      | cons entry rest => rfl
    have read : ResultSet.hits (.map response) = .ok (.map summary) := by
      simp [ResultSet.hits, Value.member, Entries.get, found, Value.orElse, Value.truthy, nonempty, bind,
        Except.bind, pure, Except.pure]
    refine ⟨.map summary, read, total_reported counted reported, ?_⟩
    unfold hitList
    simp only [read, Value.member, Entries.get, listed, Option.getD_some, bind, Except.bind]
    cases hits <;> rfl

def documentsOf (onlySource includeId : Bool) (hits : List Value) : List Entries :=
  hits.filterMap fun hit => Hit.document? hit onlySource includeId

theorem ofResponse_answered (answers : Answers total hits response) {onlySource includeId : Bool}
    (asked : requestBody payload = .ok body)
    (paged : Page.metaOf total (documentsOf onlySource includeId hits).length body = .ok page) :
    ofResponse response onlySource includeId payload =
      (checked (documentsOf onlySource includeId hits)).result.map fun documents => ⟨documents, page⟩ := by
  obtain ⟨summary, read, counted, listed⟩ := answers.read
  unfold documentsOf at paged ⊢
  unfold ofResponse pageOf
  simp only [read, counted, listed, asked, paged, bind, Except.bind, pure, Except.pure]

theorem ofResponse_unpaged (answers : Answers total hits response) (onlySource includeId : Bool) :
    ofResponse response onlySource includeId .null =
      (checked (documentsOf onlySource includeId hits)).result.map fun documents =>
        ⟨documents, ⟨total, (documentsOf onlySource includeId hits).length, none, none⟩⟩ := by
  have asked : requestBody .null = .ok (.map []) := rfl
  exact ofResponse_answered answers asked rfl

theorem checked_named {documents : List Entries} (named : ∀ document ∈ documents, Entries.hasTextKeys document = true) :
    checked documents = .valid documents := by
  unfold checked
  rw [Verdict.inside_valid_iff, Reading.sequenceOf_valid_iff, List.map_map]
  exact List.map_congr_left fun document member => Reading.mapping_named (named document member)

variable {found : List Entries}

theorem documents_described (wellFormed : ∀ hit ∈ found, Hit.WellFormed hit) (onlySource includeId : Bool) :
    List.Forall₂ (Hit.Describes onlySource includeId) (found.filter fun hit => !Hit.malformed onlySource hit)
      (documentsOf onlySource includeId (found.map .map)) := by
  unfold documentsOf
  induction found with
  | nil => exact .nil
  | cons hit rest ih =>
    obtain ⟨first, others⟩ := List.forall_mem_cons.mp wellFormed
    rw [List.map_cons, List.filterMap_cons, List.filter_cons]
    cases state : Hit.malformed onlySource hit with
    | true =>
      rw [Hit.document_malformed state]
      exact ih others
    | false =>
      obtain ⟨document, read, described⟩ := Hit.document_described first state includeId
      rw [read]
      exact .cons described (ih others)

theorem skipped_malformed (answers : Answers total (found.map .map) response)
    (wellFormed : ∀ hit ∈ found, Hit.WellFormed hit) (onlySource includeId : Bool) :
    skipped response onlySource includeId = (found.filter (Hit.malformed onlySource)).map .map := by
  obtain ⟨_, -, -, listed⟩ := answers.read
  unfold skipped
  rw [listed]
  dsimp only
  rw [List.filter_map]
  congr 1
  apply List.filter_congr
  intro hit member
  cases state : Hit.malformed onlySource hit with
  | true => simp [Hit.document_malformed state]
  | false =>
    obtain ⟨document, read, -⟩ := Hit.document_described (wellFormed hit member) state includeId
    simp [read]

theorem listing_exact (answers : Answers total (found.map .map) response)
    (wellFormed : ∀ hit ∈ found, Hit.WellFormed hit) (onlySource includeId : Bool) :
    ∃ documents, ofResponse response onlySource includeId .null =
        .ok ⟨documents, ⟨total, documents.length, none, none⟩⟩ ∧
      List.Forall₂ (Hit.Describes onlySource includeId) (found.filter fun hit => !Hit.malformed onlySource hit)
        documents ∧
      skipped response onlySource includeId = (found.filter (Hit.malformed onlySource)).map .map := by
  have described := documents_described wellFormed onlySource includeId
  have named : ∀ document ∈ documentsOf onlySource includeId (found.map .map),
      Entries.hasTextKeys document = true := by
    intro document member
    obtain ⟨v, listed, read⟩ := List.mem_filterMap.mp member
    obtain ⟨hit, there, rfl⟩ := List.mem_map.mp listed
    exact (Hit.document_plain (wellFormed hit there) read).named
  refine ⟨_, ?_, described, skipped_malformed answers wellFormed onlySource includeId⟩
  rw [ofResponse_unpaged answers, checked_named named]
  rfl

def ranked : Entries := Entries.ofFields
  [("_id", .str "u1"), ("_source", .record [("name", .str "Ada")]), ("sort", .list [.int 3])]

def sourceless : Entries := Entries.ofFields
  [("_id", .str "u2"), ("_source", .null), ("fields", .record [("name", .str "Grace"), ("id", .int 7)])]

def unliftable : Entries := Entries.ofFields [("_id", .str "u3"), ("fields", .list [.str "name"])]

def covered : Entries := Entries.ofFields [("_source", .record [("id", .int 4)]), ("fields", .list [.str "name"])]

theorem listing_exact_ranked :
    let found := [ranked, sourceless, unliftable, covered]
    let response : Value := .record [("took", .int 2), ("hits",
      .record [("total", .record [("value", .int 40)]), ("hits", .list (found.map .map))])]
    Answers 40 (found.map .map) response ∧ (∀ hit ∈ found, Hit.WellFormed hit) ∧
      ∃ documents, ofResponse response true true .null = .ok ⟨documents, ⟨40, 3, none, none⟩⟩ ∧
        documents.map (fun document => Entries.get document "id") = [.str "u1", .str "u2", .null] ∧
        skipped response true true = [.map unliftable] := by
  intro found response
  have answers : Answers 40 (found.map .map) response := .mk rfl rfl (.mapping rfl) rfl
  have wellFormed : ∀ hit ∈ [ranked, sourceless, unliftable, covered], Hit.WellFormed hit := by decide
  obtain ⟨documents, listed, described, skipped⟩ := listing_exact answers wellFormed true true
  have three : documents.length = 3 := described.length_eq.symm
  have kept : found.filter (fun hit => !Hit.malformed true hit) = [ranked, sourceless, covered] := rfl
  rw [three] at listed
  rw [kept] at described
  refine ⟨answers, wellFormed, documents, listed, ?_, skipped⟩
  cases described with
  | cons first rest =>
    cases rest with
    | cons second rest =>
      cases rest with
      | cons third rest =>
        cases rest
        rw [List.map_cons, List.map_cons, List.map_cons, first.id, second.id, third.id]
        rfl

end ResultSet
end SearchStore
