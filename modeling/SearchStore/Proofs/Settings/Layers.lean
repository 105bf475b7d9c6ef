import SearchStore.Proofs.Reading
import SearchStore.Proofs.Value.Overlay
namespace SearchStore
open Entries Reading

-- What is read from two sources, at the end of a path. `l` and `u` stand for what is read from either source
-- alone, `b` for what is read from both, and `d` for the defaults.
structure Layered (lower upper l u b d : Option Value) (path : List String) : Prop where
  above : settles upper path = true → meets upper lower path = false → reach b path = reach u path
  below : settles upper path = false → covers upper lower path = false → reach b path = reach l path
  covered : settles upper path = false → covers upper lower path = true → reach b path = reach d path
  unset : settles lower path = false → reach l path = reach d path

namespace Layered
variable {lower upper l u b d : Option Value} {path : List String}

theorem of_lower (unset : settles lower path = false → reach l path = reach d path) :
    Layered lower none l u l d path where
  above settled := by simp at settled
  below _ _ := rfl
  covered _ covered := by simp at covered
  unset := unset

theorem of_upper (unset : settles upper path = false → reach u path = reach d path) :
    Layered none upper d u u d path where
  above _ _ := rfl
  below unsettled _ := unset unsettled
  covered _ covered := by simp at covered
  unset _ := rfl

end Layered

section Fields
variable {α : Type} {read : Value → Verdict α} {lower upper : Entries} {name : String} {fallback l u : α}

-- Where both sides have mappings that can be read, so can the mapping they are joined to.
def Joins (read : Value → Verdict α) : Prop := ∀ lower upper : Entries,
  (read (.map lower)).isValid = true → (read (.map upper)).isValid = true →
    (read (.map (overlayAll lower upper))).isValid = true

theorem joins_of_leaf (leaf : ∀ entries, (read (.map entries)).isValid = false) : Joins read := by
  intro lower upper valid
  rw [leaf] at valid
  cases valid

theorem joined_valid (joins : Joins read) {old new : Value} (below : read old = .valid l) (above : read new = .valid u) :
    ∃ b, read (joined (some old) new) = .valid b ∧ ((new.isMapping && old.isMapping) = false → b = u) := by
  by_cases apart : (new.isMapping && old.isMapping) = false
  · refine ⟨u, ?_, fun _ => rfl⟩
    rw [joined_apart]
    · exact above
    · rintro _ ⟨⟩
      exact apart
  · cases new with
    | map new =>
      cases old with
      | map old =>
        obtain ⟨b, valid⟩ := Verdict.isValid_iff.mp
          (joins old new (Verdict.isValid_iff.mpr ⟨l, below⟩) (Verdict.isValid_iff.mpr ⟨u, above⟩))
        refine ⟨b, ?_, fun apart' => absurd apart' apart⟩
        rw [joined, overlay_map]
        exact valid
      | _ => exact absurd rfl apart
    | _ => exact absurd rfl apart

theorem field_lower (distinct : upper.Distinct) (missing : get? upper name = none) :
    field (overlayAll lower upper) name read fallback = field lower name read fallback := by
  refine field_congr ?_
  rw [get?_overlayAll distinct, missing]
  rfl

theorem field_upper (distinct : upper.Distinct) (missing : get? lower name = none) :
    field (overlayAll lower upper) name read fallback = field upper name read fallback := by
  refine field_congr ?_
  rw [get?_overlayAll distinct, missing]
  cases get? upper name <;> rfl

theorem field_both (distinct : upper.Distinct) {old new : Value} (below : get? lower name = some old)
    (above : get? upper name = some new) {b : α} :
    field (overlayAll lower upper) name read fallback = .valid b ↔ read (joined (some old) new) = .valid b := by
  refine field_given ?_
  rw [get?_overlayAll distinct, below, above]
  rfl

theorem field_layered (joins : Joins read) (shown : α → Value) (distinct : upper.Distinct)
    (below : field lower name read fallback = .valid l) (above : field upper name read fallback = .valid u) :
    ∃ b, field (overlayAll lower upper) name read fallback = .valid b ∧
      Layered (get? lower name) (get? upper name) (some (shown l)) (some (shown u)) (some (shown b))
        (some (shown fallback)) [] := by
  have unset : settles (get? lower name) [] = false → reach (some (shown l)) [] = reach (some (shown fallback)) [] := by
    cases found : get? lower name with
    | none =>
      cases (field_missing found).mp below
      exact fun _ => rfl
    | some old => simp
  cases foundAbove : get? upper name with
  | none => exact ⟨l, (field_lower distinct foundAbove).trans below, .of_lower unset⟩
  | some new =>
    cases foundBelow : get? lower name with
    | none =>
      cases (field_missing foundBelow).mp below
      exact ⟨u, (field_upper distinct foundBelow).trans above, .of_upper (by simp)⟩
    | some old =>
      obtain ⟨b, valid, own⟩ := joined_valid joins ((field_given foundBelow).mp below) ((field_given foundAbove).mp above)
      refine ⟨b, (field_both distinct foundBelow foundAbove).mpr valid, ?_, by simp, by simp, by simp⟩
      intro _ apart
      rw [own (by simpa [meets] using apart)]

theorem leaf_layered (leaf : ∀ entries, (read (.map entries)).isValid = false) (shown : α → Value)
    (keyed : Value.Keyed (.map upper)) (below : field lower name read fallback = .valid l)
    (above : field upper name read fallback = .valid u) :
    ∃ b, field (overlayAll lower upper) name read fallback = .valid b ∧
      Layered (get? lower name) (get? upper name) (some (shown l)) (some (shown u)) (some (shown b))
        (some (shown fallback)) [] :=
  field_layered (joins_of_leaf leaf) shown keyed.distinct below above

theorem reach_empty {found : Option Value} {path : List String} (unsettled : settles found path = false)
    (present : found.isSome = true) : reach (some (.map [])) path = none := by
  cases path with
  | nil =>
    rw [settles_nil, present] at unsettled
    cases unsettled
  | cons name rest => exact reach_none rest

theorem mapping_layered (joins : Joins read) {shown : α → Entries}
    (reads : ∀ {v a}, read v = .valid a → v = .map (shown a)) (empty : shown fallback = [])
    (keyed : Value.Keyed (.map upper)) (below : field lower name read fallback = .valid l)
    (above : field upper name read fallback = .valid u) :
    ∃ b, field (overlayAll lower upper) name read fallback = .valid b ∧ ∀ path,
      Layered (get? lower name) (get? upper name) (some (.map (shown l))) (some (.map (shown u)))
        (some (.map (shown b))) (some (.map (shown fallback))) path := by
  have unset {entries : Entries} {a : α} (valid : field entries name read fallback = .valid a) (path : List String)
      (unsettled : settles (get? entries name) path = false) :
      reach (some (.map (shown a))) path = reach (some (.map (shown fallback))) path := by
    cases found : get? entries name with
    | none =>
      cases (field_missing found).mp valid
      rfl
    | some v =>
      cases reads ((field_given found).mp valid)
      rw [found] at unsettled
      rw [reach_unsettled unsettled, empty, reach_empty unsettled rfl]
  cases foundAbove : get? upper name with
  | none => exact ⟨l, (field_lower keyed.distinct foundAbove).trans below, fun path => .of_lower (unset below path)⟩
  | some new =>
    cases foundBelow : get? lower name with
    | none =>
      cases (field_missing foundBelow).mp below
      refine ⟨u, (field_upper keyed.distinct foundBelow).trans above, fun path => ?_⟩
      exact .of_upper (foundAbove ▸ unset above path)
    | some old =>
      have readBelow := (field_given foundBelow).mp below
      have readAbove := (field_given foundAbove).mp above
      obtain ⟨b, valid, -⟩ := joined_valid joins readBelow readAbove
      refine ⟨b, (field_both keyed.distinct foundBelow foundAbove).mpr valid, fun path => ?_⟩
      have both : laid (some old) (some new) = some (.map (shown b)) := congrArg some (reads valid)
      have keyed' : ∀ v, some new = some v → v.Keyed := foundAbove ▸ keyed_get? keyed name
      have walked (apart : meets (some new) (some old) path = false) := both ▸ reach_laid keyed' apart
      rw [reads readBelow, reads readAbove] at walked ⊢
      refine ⟨fun settled apart => ?_, fun unsettled uncovered => ?_, fun unsettled covered => ?_, fun open_ => ?_⟩
      · rw [walked apart, settled]
        rfl
      · rw [walked (meets_unsettled unsettled _), unsettled, uncovered]
        rfl
      · rw [walked (meets_unsettled unsettled _), unsettled, covered, empty, reach_empty unsettled rfl]
        rfl
      · rw [reach_unsettled open_, empty, reach_empty open_ rfl]

end Fields

-- The fields of a section are read from both sources leaf by leaf, where `leaf` tells the paths below a field
-- at which its leaves stand.
def Layers {α : Type} (read : Entries → Verdict α) (dump : α → Entries) (fallback : α)
    (leaf : String → List String → Prop) : Prop :=
  ∀ {lower upper : Entries} {l u : α}, Value.Keyed (.map upper) → read lower = .valid l → read upper = .valid u →
    ∃ b, read (overlayAll lower upper) = .valid b ∧ ∀ name rest, leaf name rest →
      Layered (get? lower name) (get? upper name) (get? (dump l) name) (get? (dump u) name) (get? (dump b) name)
        (get? (dump fallback) name) rest

section Sections
variable {α : Type} {read : Entries → Verdict α} {dump : α → Entries} {fallback : α}
  {leaf : String → List String → Prop} {lower upper : Entries} {name : String} {l u : α}

theorem Layers.unset (layers : Layers read dump fallback leaf) (empty : read [] = .valid fallback) {entries : Entries}
    {a : α} (valid : read entries = .valid a) {field : String} {rest : List String} (stands : leaf field rest)
    (unsettled : settles (get? entries field) rest = false) :
    reach (get? (dump a) field) rest = reach (get? (dump fallback) field) rest := by
  obtain ⟨b, -, layered⟩ := layers Value.keyed_empty valid empty
  exact (layered field rest stands).unset unsettled

-- A section as a field. It may be given in another way than as a mapping, and is then given as a whole.
theorem section_layered {whole : Value → Verdict α} (layers : Layers read dump fallback leaf)
    (empty : read [] = .valid fallback) (maps : ∀ entries, whole (.map entries) = read entries)
    (keyed : Value.Keyed (.map upper)) (below : field lower name whole fallback = .valid l)
    (above : field upper name whole fallback = .valid u) :
    ∃ b, field (overlayAll lower upper) name whole fallback = .valid b ∧ ∀ inner rest, leaf inner rest →
      Layered (get? lower name) (get? upper name) (some (.map (dump l))) (some (.map (dump u)))
        (some (.map (dump b))) (some (.map (dump fallback))) (inner :: rest) := by
  have unset {entries : Entries} {a : α} (valid : field entries name whole fallback = .valid a) {inner : String}
      {rest : List String} (stands : leaf inner rest)
      (unsettled : settles (get? entries name) (inner :: rest) = false) :
      reach (some (.map (dump a))) (inner :: rest) = reach (some (.map (dump fallback))) (inner :: rest) := by
    cases found : get? entries name with
    | none =>
      cases (field_missing found).mp valid
      rfl
    | some v =>
      rw [found] at unsettled
      cases v with
      | map fields =>
        have read := (field_given found).mp valid
        rw [maps] at read
        exact layers.unset empty read stands unsettled
      | _ => cases unsettled
  cases foundAbove : get? upper name with
  | none =>
    exact ⟨l, (field_lower keyed.distinct foundAbove).trans below, fun _ _ stands => .of_lower (unset below stands)⟩
  | some new =>
    cases foundBelow : get? lower name with
    | none =>
      cases (field_missing foundBelow).mp below
      refine ⟨u, (field_upper keyed.distinct foundBelow).trans above, fun _ _ stands => ?_⟩
      exact .of_upper (foundAbove ▸ unset above stands)
    | some old =>
      have readBelow := (field_given foundBelow).mp below
      have readAbove := (field_given foundAbove).mp above
      by_cases apart : (new.isMapping && old.isMapping) = false
      · have own : joined (some old) new = new := joined_apart fun _ same => by cases same; exact apart
        have valid : whole (joined (some old) new) = .valid u := by rw [own, readAbove]
        refine ⟨u, (field_both keyed.distinct foundBelow foundAbove).mpr valid, fun inner rest stands => ?_⟩
        refine ⟨fun _ _ => rfl, fun unsettled uncovered => ?_, fun unsettled _ => ?_, ?_⟩
        · -- What leaves the leaf open above is a mapping, and it covers what is no mapping below.
          cases new with
          | map above =>
            have leaf : old.isMapping = false := apart
            rw [covers_leaf leaf] at uncovered
            cases uncovered
          | _ => cases unsettled
        · exact unset above stands (foundAbove ▸ unsettled)
        · exact foundBelow ▸ unset below stands
      · cases new with
        | map new =>
          cases old with
          | map old =>
            rw [maps] at readBelow readAbove
            obtain ⟨b, valid, layered⟩ := layers (keyed_get? keyed name _ foundAbove) readBelow readAbove
            refine ⟨b, (field_both keyed.distinct foundBelow foundAbove).mpr ?_, fun inner rest stands => ?_⟩
            · rw [joined, overlay_map]
              exact (maps _).trans valid
            · obtain ⟨above, below, covered, unset⟩ := layered inner rest stands
              exact ⟨above, below, covered, unset⟩
          | _ => exact absurd rfl apart
        | _ => exact absurd rfl apart

end Sections
end SearchStore
