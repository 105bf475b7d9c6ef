import Mathlib
import SearchStore.Settings.Sources
import SearchStore.Proofs.Settings.Layers
namespace SearchStore
open Entries Reading

namespace Reading

theorem joins_mappingOf {α : Type} {read : Value → Verdict α}
    (values : ∀ old new, (read old).isValid = true → (read new).isValid = true →
      (read (overlay old new)).isValid = true) :
    Joins (mappingOf read) := by
  intro lower upper below above
  rw [isValid_mappingOf] at below above ⊢
  exact mem_overlayAll (·.isText = true) _ values below above

theorem joins_texts : Joins (mappingOf text) := by
  refine joins_mappingOf fun old new _ valid => ?_
  cases new with
  | str text => rw [overlay_leaf old rfl]; rfl
  | _ => cases valid

theorem mappingOf_entries {α : Type} {read : Value → Verdict α} (shown : α → Value) {v : Value}
    {fields : List (String × α)} (reads : ∀ {v a}, read v = .valid a → v = shown a)
    (valid : mappingOf read v = .valid fields) :
    v = .map (ofFields (fields.map fun field => (field.1, shown field.2))) := by
  obtain ⟨entries, rfl, each⟩ := mappingOf_valid_iff.mp valid
  clear valid
  congr 1
  induction each with
  | nil => rfl
  | cons first _ ih => exact congrArg₂ List.cons (Prod.ext first.1 (reads first.2)) ih

theorem reads_texts {v : Value} {fields : List (String × String)} (valid : mappingOf text v = .valid fields) :
    v = .map (ofFields (fields.map fun field => (field.1, .str field.2))) := by
  refine mappingOf_entries .str (fun {v a} same => ?_) valid
  cases v with
  | str text =>
    cases same
    rfl
  | _ => cases same

theorem joins_mapping : Joins mapping := by
  have same (v : Value) : (mapping v).isValid = (mappingOf .valid v : Verdict (List (String × Value))).isValid := by
    unfold mapping
    cases mappingOf .valid v <;> rfl
  intro lower upper below above
  rw [same] at below above ⊢
  exact joins_mappingOf (fun _ _ _ _ => rfl) lower upper below above

theorem reads_mapping {v : Value} {entries : Entries} (valid : mapping v = .valid entries) : v = .map entries := by
  unfold mapping at valid
  cases fields : (mappingOf .valid v : Verdict (List (String × Value))) with
  | valid fields' =>
    rw [fields] at valid
    cases valid
    simpa using mappingOf_entries id (fun same => Verdict.valid.inj same) fields
  | _ => rw [fields] at valid; cases valid

end Reading

namespace ClientOptions

-- Where the leaves of the options stand. Additional ones may be mappings themselves.
inductive Leaf : String → List String → Prop
  | field {name : String} (known : name ∈ ["request_timeout", "dead_timeout", "sniff_on_start", "sniffer_timeout",
      "maxsize", "verify_certs"]) : Leaf name []
  | extra (path : List String) : Leaf "extra" path

theorem read_valid_iff {fields : Entries} {o : ClientOptions} : read fields = .valid o ↔
    field fields "request_timeout" positive (.finite 10) = .valid o.requestTimeout ∧
    field fields "dead_timeout" notNegative (.finite 30) = .valid o.deadTimeout ∧
    field fields "sniff_on_start" flag false = .valid o.sniffOnStart ∧
    field fields "sniffer_timeout" (Reading.optional number) (some (.finite 36)) = .valid o.snifferTimeout ∧
    field fields "maxsize" atLeastOne 100 = .valid o.maxSize ∧
    field fields "verify_certs" flag true = .valid o.verifyCerts ∧
    field fields "extra" mapping [] = .valid o.extra := by
  obtain ⟨_, _, _, _, _, _, _⟩ := o
  rw [← Verdict.gives_eq, read]
  simp only [Verdict.gives_seq, Verdict.gives_map]
  unfold Verdict.Gives
  constructor
  · rintro ⟨_, timeout, _, dead, _, sniff, _, sniffer, _, size, _, certs, _, extra, ⟨⟩⟩
    exact ⟨timeout, dead, sniff, sniffer, size, certs, extra⟩
  · rintro ⟨timeout, dead, sniff, sniffer, size, certs, extra⟩
    exact ⟨_, timeout, _, dead, _, sniff, _, sniffer, _, size, _, certs, _, extra, rfl⟩

theorem layers : Layers read toEntries {} Leaf := by
  intro lower upper l u keyed below above
  obtain ⟨timeoutBelow, deadBelow, sniffBelow, snifferBelow, sizeBelow, certsBelow, extraBelow⟩ :=
    read_valid_iff.mp below
  obtain ⟨timeoutAbove, deadAbove, sniffAbove, snifferAbove, sizeAbove, certsAbove, extraAbove⟩ :=
    read_valid_iff.mp above
  obtain ⟨timeout, timeoutRead, timeoutLaid⟩ := leaf_layered (fun _ => rfl) .float keyed timeoutBelow timeoutAbove
  obtain ⟨dead, deadRead, deadLaid⟩ := leaf_layered (fun _ => rfl) .float keyed deadBelow deadAbove
  obtain ⟨sniff, sniffRead, sniffLaid⟩ := leaf_layered (fun _ => rfl) .bool keyed sniffBelow sniffAbove
  obtain ⟨sniffer, snifferRead, snifferLaid⟩ :=
    leaf_layered (fun _ => rfl) (·.elim .null .float) keyed snifferBelow snifferAbove
  obtain ⟨size, sizeRead, sizeLaid⟩ := leaf_layered (fun _ => rfl) .int keyed sizeBelow sizeAbove
  obtain ⟨certs, certsRead, certsLaid⟩ := leaf_layered (fun _ => rfl) .bool keyed certsBelow certsAbove
  obtain ⟨extra, extraRead, extraLaid⟩ := mapping_layered joins_mapping reads_mapping rfl keyed extraBelow extraAbove
  refine ⟨⟨timeout, dead, sniff, sniffer, size, certs, extra⟩, read_valid_iff.mpr ⟨timeoutRead, deadRead, sniffRead,
    snifferRead, sizeRead, certsRead, extraRead⟩, fun name rest leaf => ?_⟩
  cases leaf with
  | field known =>
    simp only [List.mem_cons, List.not_mem_nil, or_false] at known
    rcases known with rfl | rfl | rfl | rfl | rfl | rfl
    exacts [timeoutLaid, deadLaid, sniffLaid, snifferLaid, sizeLaid, certsLaid]
  | extra => exact extraLaid rest

end ClientOptions

namespace DebugSwitches

inductive Leaf : String → List String → Prop
  | field {name : String} (known : name ∈ ["create", "read", "update", "delete"]) : Leaf name []

theorem readFields_valid_iff {fields : Entries} {d : DebugSwitches} : readFields fields = .valid d ↔
    field fields "create" flag true = .valid d.create ∧ field fields "read" flag true = .valid d.read ∧
    field fields "update" flag true = .valid d.update ∧ field fields "delete" flag true = .valid d.delete := by
  obtain ⟨_, _, _, _⟩ := d
  rw [← Verdict.gives_eq, readFields]
  simp only [Verdict.gives_seq, Verdict.gives_map]
  unfold Verdict.Gives
  constructor
  · rintro ⟨_, create, _, reads, _, update, _, delete, ⟨⟩⟩
    exact ⟨create, reads, update, delete⟩
  · rintro ⟨create, reads, update, delete⟩
    exact ⟨_, create, _, reads, _, update, _, delete, rfl⟩

theorem layers : Layers readFields toEntries {} Leaf := by
  intro lower upper l u keyed below above
  obtain ⟨createBelow, readsBelow, updateBelow, deleteBelow⟩ := readFields_valid_iff.mp below
  obtain ⟨createAbove, readsAbove, updateAbove, deleteAbove⟩ := readFields_valid_iff.mp above
  obtain ⟨create, createRead, createLaid⟩ := leaf_layered (fun _ => rfl) .bool keyed createBelow createAbove
  obtain ⟨reads, readsRead, readsLaid⟩ := leaf_layered (fun _ => rfl) .bool keyed readsBelow readsAbove
  obtain ⟨update, updateRead, updateLaid⟩ := leaf_layered (fun _ => rfl) .bool keyed updateBelow updateAbove
  obtain ⟨delete, deleteRead, deleteLaid⟩ := leaf_layered (fun _ => rfl) .bool keyed deleteBelow deleteAbove
  refine ⟨⟨create, reads, update, delete⟩, readFields_valid_iff.mpr ⟨createRead, readsRead, updateRead, deleteRead⟩,
    fun name rest leaf => ?_⟩
  cases leaf with
  | field known =>
    simp only [List.mem_cons, List.not_mem_nil, or_false] at known
    rcases known with rfl | rfl | rfl | rfl
    exacts [createLaid, readsLaid, updateLaid, deleteLaid]

end DebugSwitches

namespace Observability

inductive Leaf : String → List String → Prop
  | field {name : String} (known : name ∈ ["log_level", "log_format"]) : Leaf name []

theorem readFields_valid_iff {fields : Entries} {o : Observability} : readFields fields = .valid o ↔
    field fields "log_level" text "info" = .valid o.logLevel ∧
    field fields "log_format" text "json" = .valid o.logFormat := by
  obtain ⟨_, _⟩ := o
  rw [← Verdict.gives_eq, readFields]
  simp only [Verdict.gives_seq, Verdict.gives_map]
  unfold Verdict.Gives
  constructor
  · rintro ⟨_, level, _, format, ⟨⟩⟩
    exact ⟨level, format⟩
  · rintro ⟨level, format⟩
    exact ⟨_, level, _, format, rfl⟩

theorem layers : Layers readFields toEntries {} Leaf := by
  intro lower upper l u keyed below above
  obtain ⟨levelBelow, formatBelow⟩ := readFields_valid_iff.mp below
  obtain ⟨levelAbove, formatAbove⟩ := readFields_valid_iff.mp above
  obtain ⟨level, levelRead, levelLaid⟩ := leaf_layered (fun _ => rfl) .str keyed levelBelow levelAbove
  obtain ⟨format, formatRead, formatLaid⟩ := leaf_layered (fun _ => rfl) .str keyed formatBelow formatAbove
  refine ⟨⟨level, format⟩, readFields_valid_iff.mpr ⟨levelRead, formatRead⟩, fun name rest leaf => ?_⟩
  cases leaf with
  | field known =>
    simp only [List.mem_cons, List.not_mem_nil, or_false] at known
    rcases known with rfl | rfl
    exacts [levelLaid, formatLaid]

end Observability

theorem Node.read_map (entries : Entries) :
    read (.map entries) = match (Reading.mapping (.map entries)).inside (.field "dict[str,any]") with
      | .valid entries => .valid (.mapping entries)
      | .invalid details => .invalid (⟨[.field "str"], .textExpected⟩ :: details)
      | .failed fault => .failed fault := rfl

-- A node that both sources describe is described by what they say together.
theorem Node.joins_readAll : Joins readAll := by
  have same (entries : Entries) : (readAll (.map entries)).isValid = (Reading.mapping (.map entries)).isValid := by
    have listed : readAll (.map entries) = .all [(read (.map entries)).inside (.position 0)] := rfl
    rw [listed, Verdict.isValid_all, read_map]
    cases Reading.mapping (.map entries) <;> rfl
  intro lower upper below above
  rw [same] at below above ⊢
  exact joins_mapping lower upper below above

namespace StoreSettings

inductive Leaf : String → List String → Prop
  | field {name : String} (known : name ∈ ["clients", "username", "password", "index_cache_ttl", "doc_types",
      "logger"]) : Leaf name []
  | header (name : String) : Leaf "headers" [name]
  | options {name : String} {rest : List String} (leaf : ClientOptions.Leaf name rest) : Leaf "options" (name :: rest)
  | debug {name : String} {rest : List String} (leaf : DebugSwitches.Leaf name rest) : Leaf "debug" (name :: rest)

theorem readFields_valid_iff {fields : Entries} {s : StoreSettings} : readFields fields = .valid s ↔
    field fields "clients" Node.readAll [.url "http://localhost:9200"] = .valid s.clients ∧
    field fields "username" (Reading.optional text) none = .valid s.username ∧
    field fields "password" (Reading.optional text) none = .valid s.password ∧
    field fields "headers" (mappingOf text) [] = .valid s.headers ∧
    field fields "options" (part ClientOptions.read) {} = .valid s.options ∧
    field fields "debug" DebugSwitches.ofValue {} = .valid s.debug ∧
    field fields "index_cache_ttl" positive (.finite 60) = .valid s.indexCacheTtl ∧
    field fields "doc_types" flag false = .valid s.docTypes ∧
    field fields "logger" text "elastic" = .valid s.logger := by
  obtain ⟨_, _, _, _, _, _, _, _, _⟩ := s
  rw [← Verdict.gives_eq, readFields]
  simp only [Verdict.gives_seq, Verdict.gives_map]
  unfold Verdict.Gives
  constructor
  · rintro ⟨_, clients, _, username, _, password, _, headers, _, options, _, debug, _, ttl, _, types, _, logger, ⟨⟩⟩
    exact ⟨clients, username, password, headers, options, debug, ttl, types, logger⟩
  · rintro ⟨clients, username, password, headers, options, debug, ttl, types, logger⟩
    exact ⟨_, clients, _, username, _, password, _, headers, _, options, _, debug, _, ttl, _, types, _, logger, rfl⟩

theorem layers : Layers readFields toEntries {} Leaf := by
  intro lower upper l u keyed below above
  obtain ⟨clientsBelow, usernameBelow, passwordBelow, headersBelow, optionsBelow, debugBelow, ttlBelow, typesBelow,
    loggerBelow⟩ := readFields_valid_iff.mp below
  obtain ⟨clientsAbove, usernameAbove, passwordAbove, headersAbove, optionsAbove, debugAbove, ttlAbove, typesAbove,
    loggerAbove⟩ := readFields_valid_iff.mp above
  obtain ⟨clients, clientsRead, clientsLaid⟩ :=
    field_layered Node.joins_readAll (fun nodes => .list (nodes.map Node.toValue)) keyed.distinct
      clientsBelow clientsAbove
  obtain ⟨username, usernameRead, usernameLaid⟩ :=
    leaf_layered (fun _ => rfl) optionalText keyed usernameBelow usernameAbove
  obtain ⟨password, passwordRead, passwordLaid⟩ :=
    leaf_layered (fun _ => rfl) optionalText keyed passwordBelow passwordAbove
  obtain ⟨headers, headersRead, headersLaid⟩ :=
    mapping_layered joins_texts reads_texts rfl keyed headersBelow headersAbove
  obtain ⟨options, optionsRead, optionsLaid⟩ :=
    section_layered ClientOptions.layers rfl (fun _ => rfl) keyed optionsBelow optionsAbove
  obtain ⟨debug, debugRead, debugLaid⟩ :=
    section_layered DebugSwitches.layers rfl (fun _ => rfl) keyed debugBelow debugAbove
  obtain ⟨ttl, ttlRead, ttlLaid⟩ := leaf_layered (fun _ => rfl) .float keyed ttlBelow ttlAbove
  obtain ⟨types, typesRead, typesLaid⟩ := leaf_layered (fun _ => rfl) .bool keyed typesBelow typesAbove
  obtain ⟨logger, loggerRead, loggerLaid⟩ := leaf_layered (fun _ => rfl) .str keyed loggerBelow loggerAbove
  refine ⟨⟨clients, username, password, headers, options, debug, ttl, types, logger⟩,
    readFields_valid_iff.mpr ⟨clientsRead, usernameRead, passwordRead, headersRead, optionsRead, debugRead, ttlRead,
      typesRead, loggerRead⟩, fun name rest leaf => ?_⟩
  cases leaf with
  | field known =>
    simp only [List.mem_cons, List.not_mem_nil, or_false] at known
    rcases known with rfl | rfl | rfl | rfl | rfl | rfl
    exacts [clientsLaid, usernameLaid, passwordLaid, ttlLaid, typesLaid, loggerLaid]
  | header name => exact headersLaid [name]
  | options leaf => exact optionsLaid _ _ leaf
  | debug leaf => exact debugLaid _ _ leaf

end StoreSettings

namespace Settings

inductive Leaf : String → List String → Prop
  | store {name : String} {rest : List String} (leaf : StoreSettings.Leaf name rest) : Leaf "store" (name :: rest)
  | observability {name : String} {rest : List String} (leaf : Observability.Leaf name rest) :
      Leaf "observability" (name :: rest)

theorem isValid_nothingElse (entries : Entries) :
    (nothingElse entries).isValid = true ↔ ∀ entry ∈ entries, isField entry.1 = true := by
  unfold nothingElse
  rw [Verdict.isValid_all, List.all_map, List.all_filter, List.all_eq_true]
  refine forall₂_congr fun entry _ => ?_
  cases isField entry.1 with
  | true => simp
  | false => exact iff_of_false Bool.false_ne_true (by simp)

theorem readFields_valid_iff {entries : Entries} {s : Settings} : readFields entries = .valid s ↔
    field entries "store" StoreSettings.read {} = .valid s.store ∧
    field entries "observability" Observability.read {} = .valid s.observability ∧
    ∀ entry ∈ entries, isField entry.1 = true := by
  obtain ⟨_, _⟩ := s
  rw [← Verdict.gives_eq, readFields, ← isValid_nothingElse, Verdict.isValid_iff]
  simp only [Verdict.gives_seq, Verdict.gives_map]
  unfold Verdict.Gives
  constructor
  · rintro ⟨_, store, _, observability, units, known, ⟨⟩⟩
    exact ⟨store, observability, units, known⟩
  · rintro ⟨store, observability, units, known⟩
    exact ⟨_, store, _, observability, units, known, rfl⟩

theorem layers : Layers readFields toEntries {} Leaf := by
  intro lower upper l u keyed below above
  obtain ⟨storeBelow, observabilityBelow, othersBelow⟩ := readFields_valid_iff.mp below
  obtain ⟨storeAbove, observabilityAbove, othersAbove⟩ := readFields_valid_iff.mp above
  obtain ⟨store, storeRead, storeLaid⟩ :=
    section_layered StoreSettings.layers rfl (fun _ => rfl) keyed storeBelow storeAbove
  obtain ⟨observability, observabilityRead, observabilityLaid⟩ :=
    section_layered Observability.layers rfl (fun _ => rfl) keyed observabilityBelow observabilityAbove
  have known : ∀ entry ∈ overlayAll lower upper, isField entry.1 = true ∧ True :=
    mem_overlayAll (isField · = true) (fun _ => True) (fun _ _ _ _ => True.intro)
      (fun entry member => ⟨othersBelow entry member, True.intro⟩)
      fun entry member => ⟨othersAbove entry member, True.intro⟩
  refine ⟨⟨store, observability⟩, readFields_valid_iff.mpr ⟨storeRead, observabilityRead,
    fun entry member => (known entry member).1⟩, fun name rest leaf => ?_⟩
  cases leaf with
  | store leaf => exact storeLaid _ _ leaf
  | observability leaf => exact observabilityLaid _ _ leaf

end Settings

theorem Variables.fields_distinct {vars : Variables} (fields : List (String × Spelling)) :
    ∀ {done env : Entries}, done.Distinct →
      fields.foldlM (fun (entries : Entries) field => do
        match ← field? vars field.1 field.2 with
        | some v => return Entries.set entries field.1 v
        | none => return entries) done = (.ok env : Except Failure Entries) → env.Distinct := by
  induction fields with
  | nil =>
    rintro done _ distinct ⟨⟩
    exact distinct
  | cons field rest ih =>
    intro done env distinct folded
    rw [List.foldlM_cons] at folded
    cases said : field? vars field.1 field.2 with
    | error failure =>
      rw [said] at folded
      cases folded
    | ok v =>
      rw [said] at folded
      cases v with
      | none => exact ih distinct folded
      | some v => exact ih distinct.put folded

theorem Variables.toEntries_distinct {vars : Variables} {env : Entries} (made : toEntries vars = .ok env) :
    env.Distinct := fields_distinct _ .nil made

namespace Settings
variable {environment : List (String × String)} {given env : Entries}

theorem merged_environment (found : Surroundings.environmentEntries ⟨environment, none⟩ = .ok env)
    (given : Entries) : merged given ⟨environment, none⟩ = .ok (overlayAll env given) := by
  have distinct := (Variables.toEntries_distinct found).overlayAll given
  unfold merged
  rw [found]
  change Except.ok (overlayAll [] (overlayAll env given)) = _
  rw [overlayAll_nil distinct]

theorem load_environment (found : Surroundings.environmentEntries ⟨environment, none⟩ = .ok env)
    {s : Settings} : load (.map given) ⟨environment, none⟩ = .ok s ↔
      Entries.hasTextKeys given = true ∧ readFields (overlayAll env given) = .valid s := by
  unfold load
  dsimp only
  rw [merged_environment found]
  cases Entries.hasTextKeys given with
  | true => exact Verdict.result_ok_iff.trans (by simp)
  | false => simp

section Files
variable {read : String → Option Value} {text : String} {value : Value}

theorem ofYamlBy_parsed (parsed : read text = some value) (around : Surroundings) :
    ofYamlBy read text around = load (value.orElse (.map [])) around := by
  unfold ofYamlBy
  rw [parsed]

-- A file of settings over the variables of the environment. The reader gives a mapping as a dictionary, so no two keys
-- of it are the same.
theorem file_over_environment {yaml vars : Settings} (parsed : read text = some value) (keyed : value.Keyed)
    (holds : value.orElse (.map []) = .map given)
    (found : Surroundings.environmentEntries ⟨environment, none⟩ = .ok env)
    (fileAlone : ofYamlBy read text {} = .ok yaml) (environmentAlone : load (.map []) ⟨environment, none⟩ = .ok vars) :
    ∃ both, ofYamlBy read text ⟨environment, none⟩ = .ok both ∧ ∀ name rest, Leaf name rest →
      Layered (some (.map env)) (some (.map given)) (some (.map vars.toEntries)) (some (.map yaml.toEntries))
        (some (.map both.toEntries)) (some (.map ({} : Settings).toEntries)) (name :: rest) := by
  have keyed : Value.Keyed (.map given) := by
    rw [← holds]
    unfold Value.orElse
    split
    · exact keyed
    · exact Value.keyed_empty
  have none : Surroundings.environmentEntries ⟨[], none⟩ = .ok [] := rfl
  rw [ofYamlBy_parsed parsed, holds] at fileAlone
  obtain ⟨named, above⟩ := (load_environment none).mp fileAlone
  obtain ⟨-, below⟩ := (load_environment found).mp environmentAlone
  rw [overlayAll_nil keyed.distinct] at above
  rw [overlayAll] at below
  obtain ⟨both, valid, layered⟩ := layers keyed below above
  refine ⟨both, ?_, fun name rest leaf => ?_⟩
  · rw [ofYamlBy_parsed parsed, holds]
    exact (load_environment found).mpr ⟨named, valid⟩
  · obtain ⟨above, below, covered, unset⟩ := layered name rest leaf
    exact ⟨above, below, covered, unset⟩

theorem file_over_environment_halves :
    let text := "store:\n  username: alice\n"
    let given : Entries := [(.str "store", .map [(.str "username", .str "alice")])]
    let read : String → Option Value := fun s => if s = text then some (.map given) else none
    let environment := [("ELASTORE_STORE__LOGGER", "search")]
    read text = some (.map given) ∧ Value.Keyed (.map given) ∧
      ∃ both, ofYamlBy read text ⟨environment, none⟩ = .ok both ∧
        reach (some (.map both.toEntries)) ["store", "username"] = some (.str "alice") ∧
        reach (some (.map both.toEntries)) ["store", "logger"] = some (.str "search") := by
  intro text given read environment
  have parsed : read text = some (.map given) := if_pos rfl
  have keyed : Value.Keyed (.map given) := by
    have inner : Value.Keyed (.map [(.str "username", .str "alice")]) :=
      Value.keyed_flat (List.pairwise_singleton _ _) (by decide)
    exact .map (List.pairwise_singleton _ _) (by simpa [given] using inner)
  have empty : Surroundings.environmentEntries ⟨[], none⟩ = .ok [] := rfl
  have found : Surroundings.environmentEntries ⟨environment, none⟩ =
      .ok [(.str "store", .map [(.str "logger", .str "search")])] := rfl
  have fileAlone : ofYamlBy read text {} = .ok { store := { username := some "alice" } } :=
    (ofYamlBy_parsed parsed {}).trans ((load_environment empty).mpr ⟨rfl, rfl⟩)
  have environmentAlone : load (.map []) ⟨environment, none⟩ = .ok { store := { logger := "search" } } :=
    (load_environment found).mpr ⟨rfl, rfl⟩
  obtain ⟨both, loaded, layered⟩ := file_over_environment parsed keyed rfl found fileAlone environmentAlone
  have username := (layered "store" ["username"] (.store (.field (by decide)))).above rfl rfl
  have logger := (layered "store" ["logger"] (.store (.field (by decide)))).below rfl rfl
  exact ⟨parsed, keyed, both, loaded, username, logger⟩

theorem file_hides_variable :
    let text := "store:\n  doc_types: false\n"
    let read : String → Option Value :=
      fun s => if s = text then some (.map [(.str "store", .map [(.str "doc_types", .bool false)])]) else none
    let around : Surroundings := { environment := [("ELASTORE_STORE__DOC_TYPES", "true")] }
    (load (.map []) around).toOption.map (·.store.docTypes) = some true ∧
      (ofYamlBy read text {}).toOption.isSome = true ∧
      (ofYamlBy read text around).toOption.map (·.store.docTypes) = some false := by
  decide +kernel

end Files
end Settings
end SearchStore
