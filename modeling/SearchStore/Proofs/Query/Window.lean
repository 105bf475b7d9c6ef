import SearchStore.Proofs.Query.Slots
namespace SearchStore

namespace Find

def Slot.name? : Slot → Option String
  | .conditions => some "query"
  | .limit => some "size"
  | .offset => some "from"
  | .order => some "sort"
  | .attributes => some "fields"
  | .raw | .other => none

-- Entries of one name are copied under another, and no other slot writes there.
structure Carries (source target : String) (place : Slot) : Prop where
  slot_iff : ∀ key, slot key = place ↔ key = .str source
  copied : ∀ v, written (.str source, v) = [(.str target, v)]
  alone : ∀ slot : Slot, slot.name? = some target → slot = place
  kept : target ≠ "query"

theorem limit_carries : Carries "limit" "size" .limit where
  slot_iff key := by
    unfold slot
    split <;> simp_all
  copied v := rfl
  alone slot named := by cases slot <;> simp_all [Slot.name?]
  kept := by decide

theorem offset_carries : Carries "offset" "from" .offset where
  slot_iff key := by
    unfold slot
    split <;> simp_all
  copied v := rfl
  alone slot named := by cases slot <;> simp_all [Slot.name?]
  kept := by decide

section Written
variable {spec body done sent : Entries} {entry x : Value × Value} {source target : String} {place : Slot} {v : Value}

theorem written_name (member : x ∈ written entry) (plain : slot entry.1 ≠ .raw) :
    x = entry ∨ ∃ name, (slot entry.1).name? = some name ∧ x.1 = .str name := by
  unfold written at member
  cases place : slot entry.1 with
  | raw => exact absurd place plain
  | other =>
    rw [place] at member
    exact .inl (List.mem_singleton.mp member)
  | limit | offset | attributes =>
    rw [place] at member
    cases List.mem_singleton.mp member
    exact .inr ⟨_, rfl, rfl⟩
  | conditions | order =>
    rw [place] at member
    dsimp only at member
    split at member
    · cases List.mem_singleton.mp member
      exact .inr ⟨_, rfl, rfl⟩
    · cases member

theorem slot_raw {key : Value} (raw : slot key = .raw) : key = .str "raw" := by
  unfold slot at raw
  split at raw <;> simp_all

theorem draft_carried (carries : Carries source target place) (distinct : spec.Distinct)
    (given : Entries.get? spec source = some v) (unraw : Entries.get? spec "raw" = none)
    (free : Entries.get? spec target = none) : Entries.get? (draft spec) target = some v := by
  have found : (.str source, v) ∈ spec := Entries.mem_of_get? given
  have agreed : ∀ x ∈ (spec.flatMap written).reverse, x.1.sameKey (.str target) = true → x.2 = v := by
    intro x member same
    obtain ⟨entry, there, wrote⟩ := List.mem_flatMap.mp (List.mem_reverse.mp member)
    have named : x.1 = .str target := Value.sameKey_str.mp same
    have plain : slot entry.1 ≠ .raw := fun raw => Entries.unnamed unraw there (slot_raw raw)
    obtain equal | ⟨name, placed, titled⟩ := written_name wrote plain
    · exact absurd (equal ▸ named) (Entries.unnamed free there)
    · obtain ⟨key, w⟩ := entry
      rw [named] at titled
      cases titled
      have origin : key = .str source := (carries.slot_iff key).mp (carries.alone _ placed)
      subst origin
      rw [carries.copied] at wrote
      cases List.mem_singleton.mp wrote
      exact distinct.unique there found
  have present : ∃ x ∈ (spec.flatMap written).reverse, x.1.sameKey (.str target) = true := by
    refine ⟨(.str target, v), ?_, Value.sameKey_str.mpr rfl⟩
    apply List.mem_reverse.mpr
    apply List.mem_flatMap.mpr
    exact ⟨_, found, carries.copied v ▸ List.mem_singleton.mpr rfl⟩
  have last : Entries.last? (spec.flatMap written) (.str target) = some v := Entries.value?_all agreed present
  unfold draft Entries.get?
  rw [Entries.value?_merge, last, Option.some_or]

theorem get?_dropEmptyQuery_of_ne (distinct : body.Distinct) (other : target ≠ "query") :
    Entries.get? (dropEmptyQuery body) target = Entries.get? body target := by
  unfold Entries.get?
  rw [value?_dropEmptyQuery distinct]
  cases Entries.value? body (.str target) with
  | none => rfl
  | some v =>
    have kept : emptyQuery (.str target, v) = false := by
      apply Bool.eq_false_iff.mpr
      intro empty
      cases emptyQuery_iff.mp empty
      exact other rfl
    rw [Option.filter_some, kept]
    rfl

theorem accepted_of_write (wrote : write body entry = .ok done) : Accepted entry := by
  intro place
  unfold write at wrote
  rw [place] at wrote
  cases read : Sort.clauses entry.2 with
  | ok clauses => exact ⟨clauses, rfl⟩
  | error fault =>
    simp only [read] at wrote
    cases wrote

theorem accepted_of_foldlM (built : spec.foldlM write body = .ok done) : ∀ entry ∈ spec, Accepted entry := by
  induction spec generalizing body with
  | nil => simp
  | cons first rest ih =>
    rw [List.foldlM_cons] at built
    cases wrote : write body first with
    | error fault =>
      rw [wrote] at built
      cases built
    | ok next =>
      rw [wrote] at built
      exact List.forall_mem_cons.mpr ⟨accepted_of_write wrote, ih built⟩

theorem body_ok_iff : (∃ body, Find.body (.map spec) = .ok body) ↔ ∀ entry ∈ spec, Accepted entry := by
  unfold Find.body
  dsimp only
  constructor
  · rintro ⟨body, built⟩
    cases folded : spec.foldlM write [(.str "query", .map [])] with
    | ok done => exact accepted_of_foldlM folded
    | error fault =>
      rw [folded] at built
      cases built
  · intro accepted
    rw [foldlM_write accepted]
    exact ⟨_, rfl⟩

theorem payload_accepted {index docType : Value} (built : payload index docType (.map spec) false = .ok sent) :
    sent = request index docType (dropEmptyQuery (draft spec)) := by
  have accepted : ∀ entry ∈ spec, Accepted entry := by
    apply body_ok_iff.mp
    cases put : Find.body (.map spec) with
    | ok body => exact ⟨body, rfl⟩
    | error fault =>
      unfold payload at built
      rw [put] at built
      cases built
  rw [payload_drafted accepted] at built
  cases built
  rfl

theorem payload_window {index docType size offset : Value} (distinct : spec.Distinct)
    (limited : Entries.get? spec "limit" = some size) (skipping : Entries.get? spec "offset" = some offset)
    (unraw : Entries.get? spec "raw" = none) (unsized : Entries.get? spec "size" = none)
    (unplaced : Entries.get? spec "from" = none) (built : payload index docType (.map spec) false = .ok sent) :
    ∃ body : Entries, sent = request index docType body ∧ Entries.get? body "size" = some size ∧
      Entries.get? body "from" = some offset := by
  refine ⟨_, payload_accepted built, ?_, ?_⟩
  · rw [get?_dropEmptyQuery_of_ne (draft_distinct spec) limit_carries.kept]
    exact draft_carried limit_carries distinct limited unraw unsized
  · rw [get?_dropEmptyQuery_of_ne (draft_distinct spec) offset_carries.kept]
    exact draft_carried offset_carries distinct skipping unraw unplaced

end Written
end Find
end SearchStore
