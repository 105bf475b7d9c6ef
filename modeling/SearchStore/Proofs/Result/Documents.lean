import SearchStore.Result.Listing
import SearchStore.Proofs.Value.Merging
namespace SearchStore

structure Entries.Plain (entries : Entries) : Prop where
  distinct : entries.Distinct
  named : entries.hasTextKeys = true

instance (entries : Entries) : Decidable entries.Plain :=
  decidable_of_iff (entries.Distinct ∧ entries.hasTextKeys = true)
    ⟨fun ⟨distinct, named⟩ => ⟨distinct, named⟩, fun ⟨distinct, named⟩ => ⟨distinct, named⟩⟩

namespace Entries.Plain
variable {entries more : Entries}

theorem without (plain : entries.Plain) (name : String) : (entries.without name).Plain :=
  ⟨plain.distinct.sublist (without_sublist entries name), hasTextKeys_without plain.named⟩

theorem set (plain : entries.Plain) (name : String) (v : Value) : (entries.set name v).Plain :=
  ⟨plain.distinct.put, hasTextKeys_set plain.named⟩

theorem merge (plain : entries.Plain) (other : more.Plain) : (entries.merge more).Plain :=
  ⟨plain.distinct.merge, hasTextKeys_merge plain.named other.named⟩

end Entries.Plain

namespace Hit
variable {hit document : Entries} {onlySource includeId : Bool}

def alone (onlySource : Bool) (hit : Entries) : Bool := onlySource && !(Entries.get hit "_source").isNull

-- Fields that hold something and are no mapping cannot be lifted.
def malformed (onlySource : Bool) (hit : Entries) : Bool :=
  !alone onlySource hit && ((Entries.get hit "fields").truthy && !(Entries.get hit "fields").isMapping)

def source (hit : Entries) : Entries := (Entries.get hit "_source").entries?.getD []

def selected (hit : Entries) : Entries := (Entries.get hit "fields").entries?.getD []

-- A hit that is read whole: its selected fields, then whatever else it holds but its sort values and the fields.
def whole (hit : Entries) (name : String) : Option Value :=
  (Entries.get? (selected hit) name).or (if name = "sort" ∨ name = "fields" then none else Entries.get? hit name)

def content (onlySource : Bool) (hit : Entries) (name : String) : Option Value :=
  if alone onlySource hit then Entries.get? (source hit) name else whole hit name

def titled (includeId : Bool) (document : Entries) (id : Value) : Entries :=
  if includeId then Entries.set document "id" id else document

theorem get_unsorted (hit : Entries) {name : String} (other : "sort" ≠ name) :
    Entries.get (Entries.without hit "sort") name = Entries.get hit name := by
  unfold Entries.get
  rw [Entries.get?_without_of_ne other]

theorem read_alone (sourced : alone onlySource hit = true) : read (.map hit) onlySource includeId =
    (Entries.get hit "_source").toEntries.map fun document => titled includeId document (Entries.get hit "_id") := by
  have item : Value.toEntries (.map hit) = .ok hit := rfl
  have source : Entries.get (Entries.without hit "sort") "_source" = Entries.get hit "_source" :=
    get_unsorted hit (by decide)
  have id : Entries.get (Entries.without hit "sort") "_id" = Entries.get hit "_id" := get_unsorted hit (by decide)
  unfold alone at sourced
  unfold read titled
  simp only [item, source, id, sourced, if_true, bind, Except.bind, pure, Except.pure]
  cases (Entries.get hit "_source").toEntries <;> rfl

theorem read_whole (unsourced : alone onlySource hit = false) : read (.map hit) onlySource includeId =
    (lifted (Entries.without hit "sort")).map fun document =>
      titled includeId document (Entries.get document "_id") := by
  have item : Value.toEntries (.map hit) = .ok hit := rfl
  have source : Entries.get (Entries.without hit "sort") "_source" = Entries.get hit "_source" :=
    get_unsorted hit (by decide)
  unfold alone at unsourced
  unfold read titled
  simp only [item, source, unsourced, bind, Except.bind, pure, Except.pure]
  cases lifted (Entries.without hit "sort") <;> rfl

def bare (hit : Entries) : Entries := Entries.without (Entries.without hit "sort") "fields"

theorem entries?_falsy {v : Value} (falsy : v.truthy = false) : v.entries?.getD [] = [] := by
  cases v with
  | map entries =>
    cases entries with
    | nil => rfl
    | cons entry rest => cases falsy
  | _ => rfl

theorem lifted_unsorted (hit : Entries) : lifted (Entries.without hit "sort") =
    if (Entries.get hit "fields").truthy && !(Entries.get hit "fields").isMapping then .error .noMember
    else .ok (Entries.merge (bare hit) (selected hit)) := by
  have fields : Entries.get (Entries.without hit "sort") "fields" = Entries.get hit "fields" :=
    get_unsorted hit (by decide)
  unfold lifted selected
  dsimp only
  rw [fields]
  cases held : (Entries.get hit "fields").truthy with
  | false =>
    rw [entries?_falsy held]
    rfl
  | true => cases Entries.get hit "fields" <;> rfl

theorem get?_lifted (distinct : hit.Distinct) (fields : (selected hit).Distinct) (name : String) :
    Entries.get? (Entries.merge (bare hit) (selected hit)) name = whole hit name := by
  have unsorted : Entries.Distinct (Entries.without hit "sort") :=
    distinct.sublist (Entries.without_sublist hit "sort")
  have left : Entries.get? (bare hit) name =
      if name = "sort" ∨ name = "fields" then none else Entries.get? hit name := by
    unfold bare
    rw [Entries.get?_without unsorted, Entries.get?_without distinct]
    by_cases sort : "sort" = name
    · simp [sort]
    · by_cases fields : "fields" = name
      · simp [fields]
      · simp [sort, fields, Ne.symm sort, Ne.symm fields]
  rw [Entries.get?_merge fields, left]
  rfl

-- A hit as the engine writes it: a source is a document, and no selected field is called like the engine's id.
structure WellFormed (hit : Entries) : Prop where
  plain : hit.Plain
  sourced : (Entries.get hit "_source").isNull = false →
    (Entries.get hit "_source").isMapping = true ∧ (source hit).Plain
  fields : (selected hit).Plain
  unidentified : Entries.get? (selected hit) "_id" = none

instance (hit : Entries) : Decidable (WellFormed hit) :=
  decidable_of_iff (hit.Plain ∧ ((Entries.get hit "_source").isNull = false →
      (Entries.get hit "_source").isMapping = true ∧ (source hit).Plain) ∧
      (selected hit).Plain ∧ Entries.get? (selected hit) "_id" = none)
    ⟨fun ⟨plain, sourced, fields, unidentified⟩ => ⟨plain, sourced, fields, unidentified⟩,
      fun ⟨plain, sourced, fields, unidentified⟩ => ⟨plain, sourced, fields, unidentified⟩⟩

theorem WellFormed.source_map (wellFormed : WellFormed hit) (sourced : alone onlySource hit = true) :
    Entries.get hit "_source" = .map (source hit) ∧ (source hit).Plain := by
  have held : (Entries.get hit "_source").isNull = false := by
    unfold alone at sourced
    simpa using (Bool.and_eq_true_iff.mp sourced).2
  obtain ⟨mapping, plain⟩ := wellFormed.sourced held
  refine ⟨?_, plain⟩
  unfold source
  cases found : Entries.get hit "_source" with
  | map entries => rfl
  | _ =>
    rw [found] at mapping
    cases mapping

theorem titled_plain (plain : document.Plain) (includeId : Bool) (id : Value) : (titled includeId document id).Plain := by
  unfold titled
  split
  · exact plain.set "id" id
  · exact plain

theorem get?_titled (includeId : Bool) (document : Entries) (id : Value) (name : String) :
    Entries.get? (titled includeId document id) name =
      if includeId = true ∧ name = "id" then some id else Entries.get? document name := by
  unfold titled
  cases includeId with
  | false => simp
  | true => simp [Entries.get?_set, @eq_comm _ name]

structure Describes (onlySource includeId : Bool) (hit document : Entries) : Prop where
  plain : document.Plain
  names : ∀ name, Entries.get? document name =
    if includeId = true ∧ name = "id" then some (Entries.get hit "_id") else content onlySource hit name

theorem Describes.id (described : Describes onlySource true hit document) :
    Entries.get document "id" = Entries.get hit "_id" := by
  unfold Entries.get
  rw [described.names]
  rfl

theorem document_malformed (malformed : malformed onlySource hit = true) (includeId : Bool) :
    document? (.map hit) onlySource includeId = none := by
  unfold Hit.malformed at malformed
  obtain ⟨unsourced, fields⟩ := Bool.and_eq_true_iff.mp malformed
  unfold document?
  rw [read_whole (by simpa using unsourced), lifted_unsorted, if_pos fields]
  rfl

theorem document_described (wellFormed : WellFormed hit) (readable : malformed onlySource hit = false)
    (includeId : Bool) :
    ∃ document, document? (.map hit) onlySource includeId = some document ∧
      Describes onlySource includeId hit document := by
  cases sourced : alone onlySource hit with
  | true =>
    obtain ⟨found, plain⟩ := wellFormed.source_map sourced
    refine ⟨titled includeId (source hit) (Entries.get hit "_id"), ?_, titled_plain plain _ _, ?_⟩
    · unfold document?
      rw [read_alone sourced, found]
      rfl
    · intro name
      rw [get?_titled, content, if_pos sourced]
  | false =>
    have lift := lifted_unsorted hit
    rw [malformed, sourced] at readable
    rw [if_neg (by simpa using readable)] at lift
    have plain : (Entries.merge (bare hit) (selected hit)).Plain :=
      ((wellFormed.plain.without "sort").without "fields").merge wellFormed.fields
    have names := get?_lifted wellFormed.plain.distinct wellFormed.fields.distinct
    have id : Entries.get (Entries.merge (bare hit) (selected hit)) "_id" = Entries.get hit "_id" := by
      unfold Entries.get
      rw [names, whole, wellFormed.unidentified]
      rfl
    refine ⟨titled includeId (Entries.merge (bare hit) (selected hit)) (Entries.get hit "_id"), ?_,
      titled_plain plain _ _, ?_⟩
    · unfold document?
      rw [read_whole sourced, lift, Except.map, id]
      rfl
    · intro name
      rw [get?_titled, content, sourced, names]
      rfl

theorem document_plain (wellFormed : WellFormed hit)
    (read : document? (.map hit) onlySource includeId = some document) : document.Plain := by
  cases state : malformed onlySource hit with
  | true =>
    rw [document_malformed state] at read
    cases read
  | false =>
    obtain ⟨found, same, described⟩ := document_described wellFormed state includeId
    rw [read] at same
    cases same
    exact described.plain

-- The id that a document is given. A selected field that is called like the engine's id takes its place.
def idOf (onlySource : Bool) (hit : Entries) : Value :=
  if alone onlySource hit then Entries.get hit "_id"
  else (Entries.get? (selected hit) "_id").getD (Entries.get hit "_id")

theorem selected_distinct (keyed : Value.Keyed (.map hit)) : (selected hit).Distinct := by
  unfold selected Entries.get
  cases found : Entries.get? hit "fields" with
  | none => exact .nil
  | some v =>
    have inner : v.Keyed := Entries.keyed_get? keyed "fields" v found
    cases v with
    | map fields => exact inner.distinct
    | _ => exact .nil

theorem get_lifted_id (keyed : Value.Keyed (.map hit)) :
    Entries.get (Entries.merge (bare hit) (selected hit)) "_id" =
      (Entries.get? (selected hit) "_id").getD (Entries.get hit "_id") := by
  unfold Entries.get
  rw [get?_lifted keyed.distinct (selected_distinct keyed), whole]
  cases Entries.get? (selected hit) "_id" <;> rfl

theorem read_of_document {hit : Value} (accepted : document? hit onlySource includeId = some document) :
    read hit onlySource includeId = .ok document := by
  unfold document? at accepted
  cases result : read hit onlySource includeId with
  | error fault =>
    rw [result] at accepted
    cases accepted
  | ok found =>
    rw [result] at accepted
    cases accepted
    rfl

theorem get?_id (keyed : Value.Keyed (.map hit)) (accepted : document? (.map hit) onlySource true = some document) :
    Entries.get? document "id" = some (idOf onlySource hit) := by
  have done := read_of_document accepted
  unfold idOf
  cases sourced : alone onlySource hit with
  | true =>
    rw [read_alone sourced] at done
    cases made : (Entries.get hit "_source").toEntries with
    | error fault =>
      rw [made] at done
      cases done
    | ok source =>
      rw [made] at done
      cases done
      exact Entries.get?_set_self
  | false =>
    rw [read_whole sourced, lifted_unsorted] at done
    split at done
    · cases done
    · cases done
      rw [← get_lifted_id keyed]
      exact Entries.get?_set_self

theorem own_id_unless_lifted (keyed : Value.Keyed (.map hit))
    (accepted : document? (.map hit) onlySource true = some document) :
    Entries.get? document "id" = some (idOf onlySource hit) ∧
    (Entries.get? document "id" = some (Entries.get hit "_id") ↔
      alone onlySource hit = true ∨ ∀ v, Entries.get? (selected hit) "_id" = some v → v = Entries.get hit "_id") := by
  have taken := get?_id keyed accepted
  refine ⟨taken, ?_⟩
  rw [taken, Option.some.injEq, idOf]
  cases sourced : alone onlySource hit with
  | true => simp
  | false => cases Entries.get? (selected hit) "_id" <;> simp

def namesake : Entries := Entries.ofFields [("_id", .str "u1"),
  ("_source", .record [("id", .int 7), ("name", .str "Ada")]), ("fields", .record [("_id", .str "u2")])]

theorem own_id_unless_lifted_namesake :
    Value.Keyed (.map namesake) ∧
      (∃ document, document? (.map namesake) true true = some document ∧
        Entries.get? document "id" = some (.str "u1")) ∧
      ∃ document, document? (.map namesake) false true = some document ∧
        Entries.get? document "id" ≠ some (Entries.get namesake "_id") := by
  have keyed : Value.Keyed (.map namesake) := by
    apply Value.Keyed.map (by decide)
    intro entry member
    simp only [namesake, Entries.ofFields, List.map_cons, List.map_nil, List.mem_cons, List.not_mem_nil,
      or_false] at member
    obtain rfl | rfl | rfl := member
    · exact .leaf rfl
    · exact Value.keyed_flat (by decide) (by decide)
    · exact Value.keyed_flat (by decide) (by decide)
  have alone : document? (.map namesake) true true =
      some (Entries.ofFields [("id", .str "u1"), ("name", .str "Ada")]) := rfl
  have whole : document? (.map namesake) false true = some (Entries.ofFields [("_id", .str "u2"),
      ("_source", .record [("id", .int 7), ("name", .str "Ada")]), ("id", .str "u2")]) := rfl
  refine ⟨keyed, ⟨_, alone, ?_⟩, ⟨_, whole, ?_⟩⟩
  · exact (own_id_unless_lifted keyed alone).2.mpr (.inl rfl)
  · intro own
    obtain sourced | same := (own_id_unless_lifted keyed whole).2.mp own
    · cases sourced
    · have equal : Value.str "u2" = .str "u1" := same (.str "u2") rfl
      simp at equal

theorem lifted_id_poses :
    let hit := Entries.ofFields [("_id", .str "u1"), ("fields", .record [("_id", .str "u2")])]
    document? (.map hit) false true = some (Entries.ofFields [("_id", .str "u2"), ("id", .str "u2")]) ∧
      Entries.get hit "_id" = .str "u1" := ⟨rfl, rfl⟩

end Hit
end SearchStore
