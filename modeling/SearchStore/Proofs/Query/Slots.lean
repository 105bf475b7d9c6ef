import SearchStore.Query.Find
import SearchStore.Proofs.Value.Merging
namespace SearchStore.Find

-- What an entry writes, slot by slot. An order that cannot be read writes nothing.
def written (entry : Value × Value) : Entries :=
  match slot entry.1 with
  | .conditions => if constrains entry.2 then [(.str "query", Where.compile entry.2)] else []
  | .limit => [(.str "size", entry.2)]
  | .offset => [(.str "from", entry.2)]
  | .order =>
    match Sort.clauses entry.2 with
    | .ok clauses => [(.str "sort", .list clauses)]
    | .error _ => []
  | .attributes => [(.str "fields", entry.2)]
  | .raw =>
    match entry.2 with
    | .map more => more
    | _ => []
  | .other => [entry]

def Accepted (entry : Value × Value) : Prop :=
  slot entry.1 = .order → ∃ clauses, Sort.clauses entry.2 = .ok clauses

instance (entry : Value × Value) : Decidable (Accepted entry) :=
  match read : Sort.clauses entry.2 with
  | .ok clauses => .isTrue fun _ => ⟨clauses, read⟩
  | .error _ =>
    if place : slot entry.1 = .order then
      .isFalse fun accepted => by
        obtain ⟨clauses, read'⟩ := accepted place
        cases read.symm.trans read'
    else .isTrue fun order => absurd order place

def Apart (a b : Value × Value) : Prop := ∀ x ∈ written a, ∀ y ∈ written b, x.1.sameKey y.1 = false

def emptyQuery : Value × Value → Bool
  | (.str "query", .map []) => true
  | _ => false

def request (index docType : Value) (body : Entries) : Entries :=
  Entries.ofFields [("index", index), ("type", docType), ("body", .map body)]

section Body
variable {spec body : Entries} {entry : Value × Value}

theorem write_eq (accepted : Accepted entry) : write body entry = .ok (Entries.merge body (written entry)) := by
  obtain ⟨key, value⟩ := entry
  unfold write written
  cases place : slot key with
  | order =>
    obtain ⟨clauses, read⟩ := accepted place
    dsimp only at read ⊢
    rw [read]
    rfl
  | conditions => cases constrains value <;> rfl
  | raw => cases value <;> rfl
  | _ => rfl

theorem foldlM_write (accepted : ∀ entry ∈ spec, Accepted entry) :
    spec.foldlM write body = .ok (Entries.merge body (spec.flatMap written)) := by
  induction spec generalizing body with
  | nil => rfl
  | cons entry rest ih =>
    obtain ⟨first, others⟩ := List.forall_mem_cons.mp accepted
    rw [List.foldlM_cons, write_eq first, List.flatMap_cons, Entries.merge_append]
    exact ih others

def draft (spec : Entries) : Entries := Entries.merge [(.str "query", .map [])] (spec.flatMap written)

theorem draft_distinct (spec : Entries) : (draft spec).Distinct :=
  Entries.Distinct.merge (List.pairwise_singleton _ _)

theorem payload_drafted (accepted : ∀ entry ∈ spec, Accepted entry) (index docType : Value) :
    payload index docType (.map spec) false = .ok (request index docType (dropEmptyQuery (draft spec))) := by
  have built : Find.body (.map spec) = .ok (dropEmptyQuery (draft spec)) := by
    unfold Find.body
    dsimp only
    rw [foldlM_write accepted]
    rfl
  unfold payload
  rw [built]
  rfl

theorem emptyQuery_iff : emptyQuery entry = true ↔ entry = (.str "query", .map []) := by
  unfold emptyQuery
  split
  · simp
  · rename_i other
    simp only [Bool.false_eq_true, false_iff]
    rintro rfl
    exact other rfl

theorem filter_unemptied (absent : (.str "query", .map []) ∉ body) : body.filter (! emptyQuery ·) = body := by
  refine List.filter_eq_self.mpr fun entry member => ?_
  rw [Bool.not_eq_true', Bool.eq_false_iff, ne_eq, emptyQuery_iff]
  rintro rfl
  exact absent member

theorem dropEmptyQuery_eq (distinct : body.Distinct) : dropEmptyQuery body = body.filter (! emptyQuery ·) := by
  unfold dropEmptyQuery
  split
  · rename_i found
    induction distinct with
    | nil => rfl
    | @cons first rest apart _ ih =>
      obtain ⟨key, value⟩ := first
      rw [Entries.get?_cons] at found
      rw [Entries.without_cons, List.filter_cons]
      split at found
      · rename_i here
        cases found
        have absent : (.str "query", .map []) ∉ rest := fun member =>
          Bool.noConfusion ((apart _ member).symm.trans here)
        rw [if_pos here, Value.sameKey_str.mp here, filter_unemptied absent]
        rfl
      · rename_i elsewhere
        have kept : emptyQuery (key, value) = false := by
          refine Bool.eq_false_iff.mpr fun empty => elsewhere ?_
          cases emptyQuery_iff.mp empty
          exact Value.sameKey_str.mpr rfl
        rw [if_neg elsewhere, kept, ih found]
        rfl
  · rename_i other
    refine (filter_unemptied fun member => ?_).symm
    exact other (distinct.value? (Value.sameKey_str.mpr rfl) member)

theorem value?_dropEmptyQuery (distinct : body.Distinct) (key : Value) :
    Entries.value? (dropEmptyQuery body) key = (Entries.value? body key).filter fun v => ! emptyQuery (key, v) := by
  rw [dropEmptyQuery_eq distinct]
  induction distinct with
  | nil => rfl
  | @cons first rest apart _ ih =>
    obtain ⟨k, value⟩ := first
    rw [List.filter_cons, Entries.value?_cons]
    by_cases same : k.sameKey key
    · rw [if_pos same]
      cases empty : emptyQuery (k, value) with
      | true =>
        cases emptyQuery_iff.mp empty
        have absent : Entries.value? rest key = none := Entries.value?_behind apart same
        rw [Value.sameKey_comm, Value.sameKey_str] at same
        rw [if_neg (by decide), ih, absent, same]
        rfl
      | false =>
        have kept : emptyQuery (key, value) = false := by
          refine Bool.eq_false_iff.mpr fun dropped => Bool.eq_false_iff.mp empty ?_
          cases emptyQuery_iff.mp dropped
          rw [Value.sameKey_str.mp same]
          rfl
        rw [if_pos (by decide), Entries.value?_cons, if_pos same, Option.filter_some, kept]
        rfl
    · rw [if_neg same, ← ih]
      split
      · rw [Entries.value?_cons, if_neg same]
      · rfl

-- Without collisions nothing is lost but an empty query.
theorem draft_perm (distinct : Entries.Distinct (spec.flatMap written)) :
    ((draft spec).filter (! emptyQuery ·)).Perm ((spec.flatMap written).filter (! emptyQuery ·)) := by
  have seeded : draft spec = (.str "query", (Entries.get? (spec.flatMap written) "query").getD (.map [])) ::
      ([] ++ Entries.without (spec.flatMap written) "query") := Entries.merge_first distinct rfl (.map [])
  rw [seeded, List.nil_append]
  cases found : Entries.get? (spec.flatMap written) "query" with
  | none =>
    rw [Entries.without_absent found, List.filter_cons, if_neg (by decide)]
  | some v => exact ((Entries.perm_without found).filter _).symm

end Body

section Collisions
variable {spec : Entries} {entry : Value × Value}

theorem Apart.symm {a b : Value × Value} (apart : Apart a b) : Apart b a := by
  intro y right x left
  rw [Value.sameKey_comm, apart x left y right]

theorem written_distinct (keyed : entry.2.Keyed) : Entries.Distinct (written entry) := by
  unfold written
  split
  · split <;> simp [Entries.Distinct]
  · exact List.pairwise_singleton _ _
  · exact List.pairwise_singleton _ _
  · split <;> simp [Entries.Distinct]
  · exact List.pairwise_singleton _ _
  · split
    · rename_i more found
      rw [found] at keyed
      exact keyed.distinct
    · exact List.Pairwise.nil
  · exact List.pairwise_singleton _ _

theorem flatMap_written_distinct (keyed : ∀ entry ∈ spec, entry.2.Keyed) (apart : spec.Pairwise Apart) :
    Entries.Distinct (spec.flatMap written) :=
  List.pairwise_flatMap.mpr ⟨fun entry member => written_distinct (keyed entry member), apart⟩

end Collisions

theorem payload_reordered (index docType : Value) {spec : Entries} (keyed : Value.Keyed (.map spec))
    (accepted : ∀ entry ∈ spec, Accepted entry) (apart : spec.Pairwise Apart) :
    ∀ ordering : Entries, ordering.Perm spec → ∃ body : Entries,
      payload index docType (.map ordering) false = .ok (request index docType body) ∧
      body.Perm ((spec.flatMap written).filter (! emptyQuery ·)) := by
  intro ordering same
  have readable : ∀ entry ∈ ordering, Accepted entry := fun entry member => accepted entry (same.mem_iff.mp member)
  have distinct : Entries.Distinct (ordering.flatMap written) := by
    refine flatMap_written_distinct (fun entry member => keyed.inner entry (same.mem_iff.mp member)) ?_
    exact (same.pairwise_iff Apart.symm).mpr apart
  refine ⟨_, payload_drafted readable index docType, ?_⟩
  rw [dropEmptyQuery_eq (draft_distinct ordering)]
  exact (draft_perm distinct).trans ((same.flatMap_right written).filter _)

def paged : Entries := Entries.ofFields [("limit", .int 10), ("where", .record [("name", .str "ada")]),
  ("order", .str "age"), ("raw", .record [("explain", .bool true)]), ("min_score", .int 1)]

theorem payload_reordered_paged :
    Value.Keyed (.map paged) ∧ (∀ entry ∈ paged, Accepted entry) ∧ paged.Pairwise Apart ∧
      ∃ body : Entries,
        payload (.str "users") (.str "user") (.map paged.reverse) false =
          .ok (request (.str "users") (.str "user") body) ∧
        body.Perm (Entries.ofFields [("size", .int 10), ("query", .record [("match", .record [("name", .str "ada")])]),
          ("sort", .list [.str "age"]), ("explain", .bool true), ("min_score", .int 1)]) := by
  have keyed : Value.Keyed (.map paged) := by
    refine .map (by decide) fun entry member => ?_
    simp only [paged, Entries.ofFields, List.map_cons, List.map_nil, List.mem_cons, List.not_mem_nil,
      or_false] at member
    rcases member with rfl | rfl | rfl | rfl | rfl
    · exact .leaf rfl
    · exact Value.keyed_flat (by decide) (by decide)
    · exact .leaf rfl
    · exact Value.keyed_flat (by decide) (by decide)
    · exact .leaf rfl
  have accepted : ∀ entry ∈ paged, Accepted entry := by decide
  have apart : paged.Pairwise Apart := by
    unfold Apart
    decide
  exact ⟨keyed, accepted, apart,
    payload_reordered (.str "users") (.str "user") keyed accepted apart paged.reverse (List.reverse_perm paged)⟩

-- What a body holds under a key. One that equals no key, not even itself, is found as it was written.
def Holds (body : Entries) (entry : Value × Value) : Prop :=
  Entries.value? body entry.1 = some entry.2 ∨ entry.1.sameKey entry.1 = false ∧ entry ∈ body

def Stands (body : Entries) (entry : Value × Value) : Prop :=
  if emptyQuery entry then Entries.get? body "query" = none else Holds body entry

section Standing
variable {body before after more : Entries} {key u v : Value}

theorem stands_iff (distinct : body.Distinct) (equal : key.sameKey key = true)
    (found : Entries.value? body key = some u) : Stands (dropEmptyQuery body) (key, v) ↔ u = v := by
  have held := value?_dropEmptyQuery distinct key
  rw [found, Option.filter_some] at held
  unfold Stands Holds
  rw [held, equal]
  cases empty : emptyQuery (key, v) with
  | true =>
    cases emptyQuery_iff.mp empty
    rw [if_pos rfl, Entries.get?, held]
    simp [emptyQuery_iff]
  | false =>
    cases dropped : emptyQuery (key, u) with
    | true =>
      have other : u ≠ v := by
        rintro rfl
        rw [empty] at dropped
        cases dropped
      simp [other]
    | false => simp

theorem draft_around (before after : Entries) (entry : Value × Value) :
    draft (before ++ entry :: after) =
      Entries.merge (Entries.merge (draft before) (written entry)) (after.flatMap written) := by
  unfold draft
  rw [List.flatMap_append, List.flatMap_cons, Entries.merge_append, Entries.merge_append]

theorem draft_raw (distinct : more.Distinct) (equal : key.sameKey key = true) (member : (key, v) ∈ more) :
    Entries.value? (draft (before ++ (.str "raw", .map more) :: after)) key =
      some ((Entries.last? (after.flatMap written) key).getD v) := by
  have last : Entries.last? more key = some v := distinct.reverse.value? equal (List.mem_reverse.mpr member)
  have raw : written (.str "raw", .map more) = more := rfl
  rw [draft_around, Entries.value?_merge, Entries.value?_merge, raw, last]
  cases Entries.last? (after.flatMap written) key <;> rfl

theorem mem_draft_raw (unequal : key.sameKey key = false) (member : (key, v) ∈ more) :
    (key, v) ∈ draft (before ++ (.str "raw", .map more) :: after) := by
  rw [draft_around]
  exact Entries.mem_merge_of_unequal unequal (.inl (Entries.mem_merge_of_unequal unequal (.inr member)))

end Standing

theorem raw_stands_unless_rewritten (index docType : Value) {before after more : Entries} (distinct : more.Distinct)
    (accepted : ∀ entry ∈ before ++ (.str "raw", .map more) :: after, Accepted entry) :
    ∃ body : Entries,
      payload index docType (.map (before ++ (.str "raw", .map more) :: after)) false =
        .ok (request index docType body) ∧
      ∀ entry ∈ more, Stands body entry ↔
        ∀ new, Entries.last? (after.flatMap written) entry.1 = some new → new = entry.2 := by
  refine ⟨_, payload_drafted accepted index docType, ?_⟩
  rintro ⟨key, v⟩ member
  have whole := draft_distinct (before ++ (.str "raw", .map more) :: after)
  cases equal : key.sameKey key with
  | true =>
    rw [stands_iff whole equal (draft_raw distinct equal member)]
    cases Entries.last? (after.flatMap written) key <;> simp
  | false =>
    have unnamed : emptyQuery (key, v) = false := by
      refine Bool.eq_false_iff.mpr fun empty => ?_
      cases emptyQuery_iff.mp empty
      cases equal
    have silent : Entries.last? (after.flatMap written) key = none :=
      Entries.value?_absent fun entry _ => Value.sameKey_unequal equal entry.1
    have kept : (key, v) ∈ dropEmptyQuery (draft (before ++ (.str "raw", .map more) :: after)) := by
      rw [dropEmptyQuery_eq whole]
      exact List.mem_filter.mpr ⟨mem_draft_raw equal member, by rw [unnamed]; rfl⟩
    simp [Stands, unnamed, Holds, equal, kept, silent]

def ownSize : Entries := Entries.ofFields [("size", .int 3), ("explain", .bool true)]

theorem raw_stands_unless_rewritten_size :
    let before := Entries.ofFields [("limit", .int 10)]
    let after := Entries.ofFields [("offset", .int 20)]
    ownSize.Distinct ∧ (∀ entry ∈ before ++ (.str "raw", .map ownSize) :: after, Accepted entry) ∧
      ∃ body : Entries,
        payload (.str "users") (.str "user") (.map (before ++ (.str "raw", .map ownSize) :: after)) false =
          .ok (request (.str "users") (.str "user") body) ∧
        Stands body (.str "size", .int 3) := by
  intro before after
  have distinct : ownSize.Distinct := by decide
  have accepted : ∀ entry ∈ before ++ (.str "raw", .map ownSize) :: after, Accepted entry := by decide
  obtain ⟨body, built, stands⟩ := raw_stands_unless_rewritten (.str "users") (.str "user") distinct accepted
  refine ⟨distinct, accepted, body, built, (stands _ List.mem_cons_self).mpr ?_⟩
  rintro new ⟨⟩

theorem limit_behind_raw :
    let spec := Entries.ofFields [("raw", .record [("size", .int 3)]), ("limit", .int 10)]
    let body := Entries.ofFields [("size", .int 10)]
    payload (.str "users") (.str "user") (.map spec) false = .ok (request (.str "users") (.str "user") body) ∧
      ¬ Stands body (.str "size", .int 3) := by
  refine ⟨rfl, ?_⟩
  rintro (held | ⟨unequal, -⟩)
  · cases held
  · cases unequal

end SearchStore.Find
