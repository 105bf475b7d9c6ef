import SearchStore.Proofs.Number.Rounding
import SearchStore.Proofs.Query.Window
import SearchStore.Proofs.Result.Listing
namespace SearchStore

namespace Page
variable {n s o : Int}

theorem count_whole (nonneg : 0 ≤ n) (small : n < 2 ^ 53) (positive : 1 ≤ s) (bounded : s < 2 ^ 53) :
    count n (.whole s) = .ok ⌈(n : Rat) / s⌉ := by
  have ceiling := Binary64.ceil?_quotient nonneg small positive bounded
  unfold count
  dsimp only
  cases quotient : Binary64.ofRat ((n : Rat) / s) with
  | infinite negative =>
    rw [quotient] at ceiling
    cases ceiling
  | _ =>
    rw [quotient] at ceiling
    dsimp only
    unfold roundUp
    rw [ceiling]

theorem fdiv_eq_floor (positive : 1 ≤ s) (o : Int) : Int.fdiv o s = ⌊(o : Rat) / s⌋ := by
  obtain ⟨size, rfl⟩ := Int.eq_ofNat_of_zero_le (show 0 ≤ s by omega)
  rw [Int.fdiv_eq_ediv_of_nonneg o (Int.natCast_nonneg size), Int.cast_natCast, Rat.floor_intCast_div_natCast]

theorem metaOf_paged (nonneg : 0 ≤ n) (small : n < 2 ^ 53) (positive : 1 ≤ s) (bounded : s < 2 ^ 53) {body : Entries}
    (sized : Entries.get? body "size" = some (.int s)) (placed : Entries.get? body "from" = some (.int o)) (shown : Nat) :
    metaOf n shown (.map body) = .ok ⟨n, shown, some ⌈(n : Rat) / s⌉, some (.whole (⌊(o : Rat) / s⌋ + 1))⟩ := by
  have asked : (Value.int s).truthy = true := by
    simp only [Value.truthy, bne_iff_ne]
    omega
  have pages : count n (.whole s) = .ok ⌈(n : Rat) / s⌉ := count_whole nonneg small positive bounded
  have page : current (.whole o) (.whole s) = .ok (.whole (⌊(o : Rat) / s⌋ + 1)) := by
    rw [current, fdiv_eq_floor positive]
  unfold metaOf
  simp only [Value.entries?, Option.map_some, Option.getD_some, Entries.get, sized, placed, asked, if_true]
  simp [number, Value.number?, Value.isNull, pages, page, bind, Except.bind, pure, Except.pure]

-- A search that starts at the beginning of a page starts within its matches just if there is that page.
theorem within_pages (positive : 1 ≤ s) (aligned : s ∣ o) : ⌊(o : Rat) / s⌋ + 1 ≤ ⌈(n : Rat) / s⌉ ↔ o < n := by
  obtain ⟨before, rfl⟩ := aligned
  have divisor : (0 : Rat) < s := by exact_mod_cast positive
  have quotient : ((s * before : Int) : Rat) / s = before := by
    push_cast
    field_simp
  rw [quotient, Int.floor_intCast, Int.add_one_le_iff, Int.lt_ceil, lt_div_iff₀ divisor]
  constructor
  · intro below
    have whole : before * s < n := by exact_mod_cast below
    linarith
  · intro below
    have whole : before * s < n := by linarith
    exact_mod_cast whole

end Page

namespace ResultSet
variable {n s o : Int} {spec sent : Entries} {response : Value} {hits : List Value}

theorem requestBody_request (index docType : Value) (body : Entries) :
    requestBody (.map (Find.request index docType body)) = .ok (.map body) := by
  cases body <;> rfl

theorem pages_tile (nonneg : 0 ≤ n) (small : n < 2 ^ 53) (positive : 1 ≤ s) (bounded : s < 2 ^ 53)
    (index docType : Value) (distinct : spec.Distinct)
    (limited : Entries.get? spec "limit" = some (.int s)) (skipping : Entries.get? spec "offset" = some (.int o))
    (unraw : Entries.get? spec "raw" = none) (unsized : Entries.get? spec "size" = none)
    (unplaced : Entries.get? spec "from" = none)
    (built : Find.payload index docType (.map spec) false = .ok sent)
    (answers : Answers n hits response) (onlySource includeId : Bool) {listed : ResultSet}
    (accepted : ofResponse response onlySource includeId .null = .ok listed) :
    ∃ pages current : Int,
      ofResponse response onlySource includeId (.map sent) = .ok { listed with
        page := { listed.page with pageCount := some pages, currentPage := some (.whole current) } } ∧
      pages = ⌈(n : Rat) / s⌉ ∧ current = ⌊(o : Rat) / s⌋ + 1 ∧ (s ∣ o → (current ≤ pages ↔ o < n)) := by
  obtain ⟨body, rfl, sized, placed⟩ :=
    Find.payload_window distinct limited skipping unraw unsized unplaced built
  have paged := Page.metaOf_paged nonneg small positive bounded sized placed
    (documentsOf onlySource includeId hits).length
  refine ⟨_, _, ?_, rfl, rfl, Page.within_pages positive⟩
  rw [ofResponse_unpaged answers] at accepted
  rw [ofResponse_answered answers (requestBody_request index docType body) paged]
  cases kept : (checked (documentsOf onlySource includeId hits)).result with
  | error failure =>
    rw [kept] at accepted
    cases accepted
  | ok documents =>
    rw [kept] at accepted
    cases accepted
    rfl

def eleventh : Entries := Entries.ofFields
  [("where", .record [("name", .str "ada")]), ("offset", .int 30), ("order", .str "age"), ("limit", .int 3)]

theorem pages_tile_eleventh :
    let response : Value := .record [("hits", .record [("total", .record [("value", .int 9007199254740991)]),
      ("hits", .list [.record [("_id", .str "u1"), ("sort", .list [.int 36])]])])]
    Answers 9007199254740991 [.record [("_id", .str "u1"), ("sort", .list [.int 36])]] response ∧
      ∃ sent, Find.payload (.str "users") (.str "user") (.map eleventh) false = .ok sent ∧
        ofResponse response false true (.map sent) =
          .ok ⟨[Entries.ofFields [("_id", .str "u1"), ("id", .str "u1")]],
            ⟨9007199254740991, 1, some 3002399751580331, some (.whole 11)⟩⟩ := by
  intro response
  have answers : Answers 9007199254740991 [.record [("_id", .str "u1"), ("sort", .list [.int 36])]] response :=
    .mk rfl rfl (.mapping rfl) rfl
  have distinct : eleventh.Distinct := by decide
  have limited : Entries.get? eleventh "limit" = some (.int 3) := rfl
  have skipping : Entries.get? eleventh "offset" = some (.int 30) := rfl
  obtain ⟨pages, current, paged, counted, placed, -⟩ :=
    pages_tile (by decide) (by decide) (by decide) (by decide) (.str "users") (.str "user") distinct limited
      skipping rfl rfl rfl rfl answers false true rfl
  have many : pages = 3002399751580331 := by
    rw [counted]
    norm_num
  have here : current = 11 := by
    rw [placed]
    norm_num
  refine ⟨answers, _, rfl, ?_⟩
  rw [many, here] at paged
  exact paged

end ResultSet
end SearchStore
