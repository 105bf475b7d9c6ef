import SearchStore.Proofs.Settings.Precedence
namespace SearchStore
open Entries Reading

namespace Reading
variable {α : Type} {read : Value → Verdict α} {shown : α → Value}

-- What was read is written out as something that is read as the same.
def RoundTrips (read : Value → Verdict α) (shown : α → Value) : Prop :=
  ∀ (v : Value) (a : α), read v = .valid a → read (shown a) = .valid a

theorem roundTrips_of_faithful (faithful : ∀ a, read (shown a) = .valid a) : RoundTrips read shown :=
  fun _ a _ => faithful a

theorem roundTrips_of_same (same : ∀ {v a}, read v = .valid a → v = shown a) : RoundTrips read shown := by
  intro v a valid
  rw [← same valid]
  exact valid

theorem RoundTrips.meeting (trips : RoundTrips read shown) (holds : α → Bool) (rule : Rule) :
    RoundTrips (meeting read holds rule) shown := by
  intro v a valid
  unfold Reading.meeting at valid ⊢
  cases found : read v with
  | valid b =>
    rw [found] at valid
    dsimp only at valid
    split at valid
    · cases valid
      rw [trips _ _ found]
      exact if_pos ‹_›
    · cases valid
  | _ =>
    rw [found] at valid
    cases valid

theorem RoundTrips.optional (trips : RoundTrips read shown) (present : ∀ a, (shown a).isNull = false) :
    RoundTrips (optional read) (·.elim .null shown) := by
  have other {v : Value} (present : v.isNull = false) : Reading.optional read v = (read v).map some := by
    cases v with
    | null => cases present
    | _ => rfl
  intro v a valid
  cases a with
  | none => rfl
  | some a =>
    cases absent : v.isNull with
    | true =>
      cases v with
      | null => cases valid
      | _ => cases absent
    | false =>
      rw [other absent] at valid
      cases found : read v with
      | valid b =>
        rw [found] at valid
        cases valid
        exact (other (present a)).trans (by rw [trips _ _ found]; rfl)
      | _ =>
        rw [found] at valid
        cases valid

theorem roundTrips_text : RoundTrips text .str := roundTrips_of_faithful fun _ => rfl

theorem roundTrips_flag : RoundTrips flag .bool := roundTrips_of_faithful fun _ => rfl

theorem roundTrips_number : RoundTrips number .float := roundTrips_of_faithful fun _ => rfl

theorem roundTrips_whole : RoundTrips whole .int := roundTrips_of_faithful fun _ => rfl

theorem field_shown {entries dump : Entries} {name : String} {fallback a : α} (trips : RoundTrips read shown)
    (usual : read (shown fallback) = .valid fallback) (found : get? dump name = some (shown a))
    (valid : field entries name read fallback = .valid a) : field dump name read fallback = .valid a := by
  refine (field_given found).mpr ?_
  cases given : get? entries name with
  | none =>
    cases (field_missing given).mp valid
    exact usual
  | some v => exact trips _ _ ((field_given given).mp valid)

end Reading

theorem Node.roundTrips : RoundTrips read toValue := by
  intro v node valid
  cases v with
  | str text =>
    cases valid
    rfl
  | map entries =>
    rw [read_map] at valid
    cases found : Reading.mapping (.map entries) with
    | valid taken =>
      rw [found] at valid
      cases valid
      cases reads_mapping found
      rw [toValue, read_map, found]
      rfl
    | _ =>
      rw [found] at valid
      cases valid
  | _ => cases valid

theorem Node.roundTrips_all : RoundTrips readAll fun nodes => .list (nodes.map toValue) := by
  intro v nodes valid
  have each : ∀ node ∈ nodes, read node.toValue = .valid node := by
    unfold readAll at valid
    cases found : listed v with
    | error fault =>
      rw [found] at valid
      cases valid
    | ok items =>
      rw [found] at valid
      intro node member
      have listed : Verdict.valid node ∈ items.map read :=
        sequenceOf_valid_iff.mp valid ▸ List.mem_map_of_mem member
      obtain ⟨item, -, taken⟩ := List.mem_map.mp listed
      exact roundTrips _ _ taken
  change sequenceOf read (nodes.map toValue) = .valid nodes
  refine sequenceOf_valid_iff.mpr ?_
  rw [List.map_map]
  exact List.map_congr_left each

namespace ClientOptions

theorem read_toEntries {fields : Entries} {o : ClientOptions} (valid : read fields = .valid o) :
    read o.toEntries = .valid o := by
  obtain ⟨timeoutRead, deadRead, sniffRead, snifferRead, sizeRead, certsRead, extraRead⟩ := read_valid_iff.mp valid
  refine read_valid_iff.mpr ⟨?_, ?_, ?_, ?_, ?_, ?_, ?_⟩
  · exact field_shown (roundTrips_number.meeting _ _) rfl rfl timeoutRead
  · exact field_shown (roundTrips_number.meeting _ _) rfl rfl deadRead
  · exact field_shown roundTrips_flag rfl rfl sniffRead
  · exact field_shown (roundTrips_number.optional fun _ => rfl) rfl rfl snifferRead
  · exact field_shown (roundTrips_whole.meeting _ _) rfl rfl sizeRead
  · exact field_shown roundTrips_flag rfl rfl certsRead
  · exact field_shown (roundTrips_of_same reads_mapping) rfl rfl extraRead

end ClientOptions

theorem ClientOptions.roundTrips : RoundTrips (part read) fun o => .map o.toEntries := by
  intro v o valid
  cases v with
  | map fields => exact read_toEntries valid
  | _ => cases valid

theorem DebugSwitches.readFields_toEntries (d : DebugSwitches) : readFields d.toEntries = .valid d := rfl

theorem DebugSwitches.roundTrips : RoundTrips ofValue fun d => .map d.toEntries :=
  roundTrips_of_faithful readFields_toEntries

namespace StoreSettings

theorem readFields_toEntries {fields : Entries} {s : StoreSettings} (valid : readFields fields = .valid s) :
    readFields s.toEntries = .valid s := by
  obtain ⟨clientsRead, usernameRead, passwordRead, headersRead, optionsRead, debugRead, ttlRead, typesRead, loggerRead⟩ :=
    readFields_valid_iff.mp valid
  refine readFields_valid_iff.mpr ⟨?_, ?_, ?_, ?_, ?_, ?_, ?_, ?_, ?_⟩
  · exact field_shown Node.roundTrips_all rfl rfl clientsRead
  · exact field_shown (roundTrips_text.optional fun _ => rfl) rfl rfl usernameRead
  · exact field_shown (roundTrips_text.optional fun _ => rfl) rfl rfl passwordRead
  · exact field_shown (roundTrips_of_same reads_texts) rfl rfl headersRead
  · exact field_shown ClientOptions.roundTrips rfl rfl optionsRead
  · exact field_shown DebugSwitches.roundTrips rfl rfl debugRead
  · exact field_shown (roundTrips_number.meeting _ _) rfl rfl ttlRead
  · exact field_shown roundTrips_flag rfl rfl typesRead
  · exact field_shown roundTrips_text rfl rfl loggerRead

theorem read_again {v : Value} {s : StoreSettings} (valid : read v = .valid s) : readFields s.toEntries = .valid s := by
  cases v with
  | map fields => exact readFields_toEntries valid
  | _ => cases valid

end StoreSettings
end SearchStore
