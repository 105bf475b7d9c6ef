import SearchStore.Proofs.Query.Nesting
import SearchStore.Proofs.Query.Window
namespace SearchStore.Sort
variable {items : List Value} {v : Value}

-- Fields and directions in turn, where a field with a direction is none that a clause could be about.
inductive Unkeyed : List Value → Prop
  | here {field : Value} (unkeyed : field.isKey = false) (direction : Value) (rest : List Value) :
      Unkeyed (field :: direction :: rest)
  | later (field direction : Value) {rest : List Value} (behind : Unkeyed rest) : Unkeyed (field :: direction :: rest)

-- An order with such a field in a list that starts with a name, however deep that stands in other lists.
inductive Misfiled : Value → Prop
  | pairs (kind : Kind) {items : List Value} (named : namesFields items = true) (unkeyed : Unkeyed items) :
      Misfiled (kind.of items)
  | inside (kind : Kind) {items : List Value} (unnamed : namesFields items = false) {item : Value}
      (member : item ∈ items) (misfiled : Misfiled item) : Misfiled (kind.of items)

theorem pairs_fails_iff : (∃ fault, pairs items = .error fault) ↔ Unkeyed items := by
  induction items using pairs.induct with
  | case1 => exact iff_of_false (by simp [pairs]) (by rintro ⟨⟩)
  | case2 last => exact iff_of_false (by simp [pairs]) (by rintro ⟨⟩)
  | case3 field direction rest keyed ih =>
    rw [pairs, if_pos keyed]
    constructor
    · rintro ⟨fault, failed⟩
      cases read : pairs rest with
      | error fault => exact .later field direction (ih.mp ⟨fault, read⟩)
      | ok clauses =>
        rw [read] at failed
        cases failed
    · intro unkeyed
      cases unkeyed with
      | here unkeyed =>
        rw [keyed] at unkeyed
        cases unkeyed
      | later _ _ behind =>
        obtain ⟨fault, failed⟩ := ih.mpr behind
        exact ⟨fault, by rw [failed]; rfl⟩
  | case4 field direction rest unkeyed =>
    rw [pairs, if_neg unkeyed]
    exact iff_of_true ⟨_, rfl⟩ (.here (Bool.eq_false_iff.mpr unkeyed) direction rest)

theorem misfiled_of (kind : Kind) : Misfiled (kind.of items) ↔
    if namesFields items then Unkeyed items else ∃ item ∈ items, Misfiled item := by
  constructor
  · intro misfiled
    generalize same : kind.of items = v at misfiled
    cases misfiled with
    | pairs kind' named unkeyed =>
      cases kind <;> cases kind' <;> cases same <;> simpa [named] using unkeyed
    | inside kind' unnamed member misfiled =>
      cases kind <;> cases kind' <;> cases same <;> simpa [unnamed] using ⟨_, member, misfiled⟩
  · intro within
    split at within
    · exact .pairs kind ‹_› within
    · obtain ⟨item, member, misfiled⟩ := within
      exact .inside kind (Bool.eq_false_iff.mpr ‹_›) member misfiled

theorem element_of_fails (kind : Kind)
    (inner : (∃ fault, elements items = .error fault) ↔ ∃ item ∈ items, Misfiled item) :
    (∃ fault, element (kind.of items) = .error fault) ↔ Misfiled (kind.of items) := by
  rw [element_of, misfiled_of]
  split
  · exact pairs_fails_iff
  · exact inner

theorem not_misfiled (unlisted : ∀ kind items, v ≠ Kind.of kind items) : ¬Misfiled v := by
  intro misfiled
  cases misfiled with
  | pairs kind => exact unlisted kind _ rfl
  | inside kind => exact unlisted kind _ rfl

mutual
theorem element_fails_iff (v : Value) : (∃ fault, element v = .error fault) ↔ Misfiled v := by
  cases v with
  | list items => exact element_of_fails .list (elements_fail_iff items)
  | tuple items => exact element_of_fails .tuple (elements_fail_iff items)
  | _ =>
    refine iff_of_false (by simp [element]) (not_misfiled ?_)
    rintro (_ | _) items ⟨⟩
theorem elements_fail_iff (items : List Value) :
    (∃ fault, elements items = .error fault) ↔ ∃ item ∈ items, Misfiled item := by
  cases items with
  | nil => simp [elements]
  | cons item rest =>
    have first := element_fails_iff item
    have others := elements_fail_iff rest
    rw [elements, List.exists_mem_cons_iff, ← first, ← others]
    cases element item with
    | error fault => simp [bind, Except.bind]
    | ok here => cases elements rest <;> simp [bind, Except.bind, pure, Except.pure]
end

theorem clauses_ok_iff : (∃ read, clauses v = .ok read) ↔ ¬Misfiled v := by
  have failing : (∃ read, element v = .ok read) ↔ ¬Misfiled v := by
    rw [← element_fails_iff]
    cases element v <;> simp
  cases v with
  | list | tuple => exact failing
  | _ =>
    refine iff_of_true ⟨_, rfl⟩ (not_misfiled ?_)
    rintro (_ | _) items ⟨⟩

end SearchStore.Sort

namespace SearchStore

theorem Entries.mem_without {entries : Entries} {entry : Value × Value} {name : String}
    (apart : entry.1.sameKey (.str name) = false) : entry ∈ entries.without name ↔ entry ∈ entries := by
  induction entries with
  | nil => rfl
  | cons first rest ih =>
    obtain ⟨key, v⟩ := first
    rw [without_cons]
    split
    · rename_i here
      have other : entry ≠ (key, v) := by
        rintro rfl
        rw [here] at apart
        cases apart
      simp [other]
    · rw [List.mem_cons, List.mem_cons, ih]

namespace Find
variable {spec : Entries}

theorem accepted_iff {entry : Value × Value} : Accepted entry ↔ (entry.1 = .str "order" → ¬Sort.Misfiled entry.2) := by
  have placed : slot entry.1 = .order ↔ entry.1 = .str "order" := by
    unfold slot
    split <;> simp_all
  unfold Accepted
  rw [placed, Sort.clauses_ok_iff]

theorem flagged_body_ok_iff (query : Entries) : (∃ body, Find.body (takeFlags (.map query)).spec = .ok body) ↔
    ∀ order, (.str "order", order) ∈ query → ¬Sort.Misfiled order := by
  have switched (switch : Bool) (name : String) (apart : name ≠ "order") (entries : Entries) (order : Value) :
      (.str "order", order) ∈ (if switch then entries.without name else entries) ↔ (.str "order", order) ∈ entries := by
    cases switch with
    | false => rfl
    | true =>
      refine Entries.mem_without (Bool.eq_false_iff.mpr fun same => apart ?_)
      exact (Value.str.inj (Value.sameKey_str.mp same)).symm
  unfold takeFlags
  dsimp only
  rw [body_ok_iff]
  simp only [accepted_iff]
  constructor
  · intro accepted order member
    refine accepted (.str "order", order) ?_ rfl
    rw [switched _ _ (by decide), switched _ _ (by decide)]
    exact member
  · rintro readable ⟨key, order⟩ member rfl
    rw [switched _ _ (by decide), switched _ _ (by decide)] at member
    exact readable order member

end Find
end SearchStore
