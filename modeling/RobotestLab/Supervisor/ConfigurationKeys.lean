import RobotestLab.Library.Machine
import RobotestLab.Supervisor.Configuration

/-!
# The keys of the configuration

The walk over the tokens of a document succeeds just when the members of each of its objects have
different names (`Configuration.walkJSONValue_tokens`), names being compared as they are spelled.
The decoder which runs afterwards compares them up to case. So in an accepted document no field is
assigned twice just when none of its objects has members whose names differ only in case, and only
then every member says what its field holds (`Configuration.load_strict`).
-/

namespace RobotestLab

namespace Supervisor

namespace Configuration

open Json (Record Token tokens tokensElements tokensMembers UniqueElements UniqueMembers)

/-! ### The walk -/

theorem more_tokens (v : Json) (ts : List Token) :
  more (tokens v ++ ts) = true
  := by
  obtain ⟨t, ts', h, hopens⟩ := Json.tokens_cons v
  rw [h]
  apply hopens

theorem walkElements_step (v : Json) (ts : List Token) (fuel : Nat) :
  walkElements (fuel + 1) (tokens v ++ ts) =
    match walkJSONValue fuel (tokens v ++ ts) with
    | .error e => .error e
    | .ok ts => walkElements fuel ts
  := by
  rw [walkElements.eq_def]
  simp only
  exact (if_pos (more_tokens v ts)).trans rfl

theorem walkMembers_step (key : String) (keys : List String) (ts : List Token) (fuel : Nat) :
  walkMembers (fuel + 1) keys (.str key :: ts) =
    if key ∈ keys then .error (.duplicateKey key)
    else
      match walkJSONValue fuel ts with
      | .error e => .error e
      | .ok ts => walkMembers fuel (key :: keys) ts
  := by
  rw [walkMembers.eq_def]
  rfl

mutual

/-- The walk ends after the value when its keys are different, and with an error otherwise. -/
theorem walkJSONValue_tokens (v : Json) (rest : List Token) (fuel : Nat)
    (hfuel : (tokens v).length < fuel) :
  (v.Unique ∧ walkJSONValue fuel (tokens v ++ rest) = .ok rest) ∨
    (¬ v.Unique ∧ ∃ e, walkJSONValue fuel (tokens v ++ rest) = .error e)
  := by
  obtain ⟨fuel, rfl⟩ := Nat.exists_eq_add_one.mpr (Nat.zero_lt_of_lt hfuel)
  cases v with
  | null => exact .inl ⟨trivial, rfl⟩
  | bool b => exact .inl ⟨trivial, rfl⟩
  | int n => exact .inl ⟨trivial, rfl⟩
  | float token => exact .inl ⟨trivial, rfl⟩
  | str s => exact .inl ⟨trivial, rfl⟩
  | arr vs =>
      rw [tokens, List.length_cons, List.length_append, List.length_singleton] at hfuel
      simp only [tokens, List.cons_append, List.append_assoc, List.nil_append, walkJSONValue,
        Json.Unique]
      rw [if_neg (by decide), if_pos trivial]
      exact walkElements_tokens vs rest fuel (by omega)
  | obj ms =>
      rw [tokens, List.length_cons, List.length_append, List.length_singleton] at hfuel
      simp only [tokens, List.cons_append, List.append_assoc, List.nil_append, walkJSONValue,
        Json.Unique]
      rw [if_pos trivial]
      rcases walkMembers_tokens ms [] rest fuel (by omega) with ⟨hnodup, -, h⟩ | ⟨hnot, h⟩
      · exact .inl ⟨hnodup, h⟩
      · refine .inr ⟨?_, h⟩
        intro hunique
        exact hnot ⟨hunique, fun _ _ => List.not_mem_nil⟩

theorem walkElements_tokens (vs : List Json) (rest : List Token) (fuel : Nat)
    (hfuel : (tokensElements vs).length + 1 < fuel) :
  (UniqueElements vs ∧ walkElements fuel (tokensElements vs ++ .delim ']' :: rest) = .ok rest) ∨
    (¬ UniqueElements vs ∧
      ∃ e, walkElements fuel (tokensElements vs ++ .delim ']' :: rest) = .error e)
  := by
  obtain ⟨fuel, rfl⟩ := Nat.exists_eq_add_one.mpr (Nat.zero_lt_of_lt hfuel)
  cases vs with
  | nil => exact .inl ⟨trivial, rfl⟩
  | cons v vs =>
      have hpos := Json.length_tokens_pos v
      rw [tokensElements, List.length_append] at hfuel
      rw [tokensElements, List.append_assoc, walkElements_step, UniqueElements]
      rcases walkJSONValue_tokens v (tokensElements vs ++ .delim ']' :: rest) fuel (by omega) with
        ⟨hv, h⟩ | ⟨hv, e, h⟩
      · rw [h]
        rcases walkElements_tokens vs rest fuel (by omega) with ⟨hvs, h⟩ | ⟨hvs, h⟩
        · exact .inl ⟨⟨hv, hvs⟩, h⟩
        · exact .inr ⟨fun hunique => hvs hunique.2, h⟩
      · rw [h]
        exact .inr ⟨fun hunique => hv hunique.1, e, rfl⟩

theorem walkMembers_tokens (ms : List (String × Json)) (keys : List String) (rest : List Token)
    (fuel : Nat) (hfuel : (tokensMembers ms).length + 1 < fuel) :
  (((ms.map Prod.fst).Nodup ∧ UniqueMembers ms) ∧ (∀ k ∈ ms.map Prod.fst, k ∉ keys) ∧
      walkMembers fuel keys (tokensMembers ms ++ .delim '}' :: rest) = .ok rest) ∨
    (¬ (((ms.map Prod.fst).Nodup ∧ UniqueMembers ms) ∧ ∀ k ∈ ms.map Prod.fst, k ∉ keys) ∧
      ∃ e, walkMembers fuel keys (tokensMembers ms ++ .delim '}' :: rest) = .error e)
  := by
  obtain ⟨fuel, rfl⟩ := Nat.exists_eq_add_one.mpr (Nat.zero_lt_of_lt hfuel)
  cases ms with
  | nil => exact .inl ⟨⟨List.nodup_nil, trivial⟩, nofun, rfl⟩
  | cons m ms =>
      obtain ⟨key, v⟩ := m
      have hpos := Json.length_tokens_pos v
      rw [tokensMembers, List.length_cons, List.length_append] at hfuel
      rw [tokensMembers, List.cons_append, List.append_assoc, walkMembers_step, UniqueMembers,
        List.map_cons, List.nodup_cons]
      by_cases hkey : key ∈ keys
      · rw [if_pos hkey]
        exact .inr ⟨fun h => h.2 key List.mem_cons_self hkey, _, rfl⟩
      rw [if_neg hkey]
      rcases walkJSONValue_tokens v (tokensMembers ms ++ .delim '}' :: rest) fuel (by omega) with
        ⟨hv, h⟩ | ⟨hv, e, h⟩
      · rw [h]
        rcases walkMembers_tokens ms (key :: keys) rest fuel (by omega) with
          ⟨⟨hnodup, hms⟩, hfresh, h⟩ | ⟨hnot, h⟩
        · refine .inl ⟨⟨⟨fun hmem => hfresh key hmem List.mem_cons_self, hnodup⟩, hv, hms⟩, ?_, h⟩
          intro k hk
          rcases List.mem_cons.mp hk with rfl | hk
          · exact hkey
          · exact fun hmem => hfresh k hk (List.mem_cons_of_mem _ hmem)
        · refine .inr ⟨?_, h⟩
          rintro ⟨⟨⟨hother, hnodup⟩, -, hms⟩, hfresh⟩
          apply hnot
          refine ⟨⟨hnodup, hms⟩, ?_⟩
          intro k hk hmem
          rcases List.mem_cons.mp hmem with rfl | hmem
          · exact hother hk
          · exact hfresh k (List.mem_cons_of_mem _ hk) hmem
      · rw [h]
        exact .inr ⟨fun hunique => hv hunique.1.2.1, e, rfl⟩

end

/-- The payloads that pass hold one value, and its keys are different. -/
theorem rejectDuplicateKeys_ok_iff {payload : List UInt8} :
  rejectDuplicateKeys payload = .ok () ↔
    ∃ v rest, Json.read payload = some (v, rest) ∧ v.Unique ∧ Json.skipSpace rest = []
  := by
  rw [rejectDuplicateKeys]
  cases hread : Json.read payload with
  | none => simp
  | some value =>
      obtain ⟨v, rest⟩ := value
      have hwalk := walkJSONValue_tokens v [] ((tokens v).length + 1) (Nat.lt_succ_self _)
      rw [List.append_nil] at hwalk
      simp only [Option.some.injEq, Prod.mk.injEq]
      rcases hwalk with ⟨hunique, h⟩ | ⟨hnot, e, h⟩
      · rw [h]
        simp only [requireEOF]
        constructor
        · intro hspace
          refine ⟨v, rest, ⟨rfl, rfl⟩, hunique, ?_⟩
          by_contra hne
          rw [if_neg hne] at hspace
          cases hspace
        · rintro ⟨_, _, ⟨rfl, rfl⟩, -, hspace⟩
          rw [if_pos hspace]
      · rw [h]
        constructor
        · nofun
        · rintro ⟨_, _, ⟨rfl, rfl⟩, hunique, -⟩
          exact absurd hunique hnot

/-! ### Accepted documents -/

variable {contents : List UInt8}

/-- The accepted documents: one value of bounded size, whose keys are different and which is decoded
into a valid configuration. -/
theorem load_ok_iff {cfg : Config} :
  load contents = .ok cfg ↔
    contents.length ≤ maxConfigFileBytes ∧
    ∃ v rest, Json.read contents = some (v, rest) ∧ v.Unique ∧ Json.skipSpace rest = [] ∧
      configRecord.decode v configRecord.zero = some cfg ∧ cfg.validate = .ok ()
  := by
  rw [load]
  constructor
  · intro h
    split at h
    · cases h
    rename_i hlarge
    rw [List.length_take] at hlarge
    have hlength : contents.length ≤ maxConfigFileBytes := by omega
    rw [List.take_of_length_le (by omega)] at h
    obtain ⟨_, hkeys, h⟩ := Except.bind_eq_ok_iff.mp h
    obtain ⟨⟨cfg', rest'⟩, hdecode, h⟩ := Except.bind_eq_ok_iff.mp h
    obtain ⟨_, -, h⟩ := Except.bind_eq_ok_iff.mp h
    obtain ⟨v, rest, hread, hunique, hspace⟩ := rejectDuplicateKeys_ok_iff.mp hkeys
    refine ⟨hlength, v, rest, hread, hunique, hspace, ?_⟩
    rw [decodeConfig, hread] at hdecode
    simp only at hdecode
    split at hdecode
    · cases hdecode
    · rename_i hcfg
      cases hdecode
      split at h
      · cases h
      · rename_i hvalid
        cases h
        exact ⟨hcfg, hvalid⟩
  · rintro ⟨hlength, v, rest, hread, hunique, hspace, hdecode, hvalid⟩
    have hkeys : rejectDuplicateKeys contents = .ok () :=
      rejectDuplicateKeys_ok_iff.mpr ⟨v, rest, hread, hunique, hspace⟩
    rw [List.take_of_length_le (by omega), if_neg (by omega), hkeys, decodeConfig, hread]
    simp only [hdecode, requireEOF, if_pos hspace, Except.ok_bind, hvalid]

/-- The member is stored in the field of the configuration with the given name. -/
def storedIn (name : String) (m : String × Json) : Bool :=
  (Json.select Json.Tag.name configRecord.tags m.1).any fun tag => tag.name = name

/-- The objects which a member of the configuration holds, each with the fields it is decoded
into. -/
def nestedObjects (m : String × Json) : List (List Json.Tag × List (String × Json)) :=
  match m.2 with
  | Json.obj ms => if storedIn "restart" m then [(restartPolicyRecord.tags, ms)] else []
  | .arr vs =>
      if storedIn "children" m then
        vs.filterMap fun
          | .obj ms => some (childRecord.tags, ms)
          | _ => none
      else []
  | _ => []

/-- The objects of a document that are decoded into a structure. -/
def decodedObjects (contents : List UInt8) : List (List Json.Tag × List (String × Json)) :=
  match Json.read contents with
  | some (.obj ms, _) => (configRecord.tags, ms) :: ms.flatMap nestedObjects
  | _ => []

/-- No field is assigned by two members of the same object. -/
def SinglyAssigned (contents : List UInt8) : Prop :=
  ∀ o ∈ decodedObjects contents, Json.SinglyAssigned o.1 o.2

/-- No object has two members that assign fields and whose names differ only in case. -/
def UniformlySpelled (contents : List UInt8) : Prop :=
  ∀ o ∈ decodedObjects contents, Json.UniformlySpelled o.1 o.2

/-- What a member of the document says is the value that is used. -/
def Faithful (contents : List UInt8) (cfg : Config) : Prop :=
  ∀ ms rest, Json.read contents = some (.obj ms, rest) →
    configRecord.Reads ms cfg ∧
      ∀ m ∈ ms,
        (∀ fields, m.2 = .obj fields → storedIn "restart" m →
          restartPolicyRecord.Reads fields cfg.restart) ∧
        ∀ vs, m.2 = .arr vs → storedIn "children" m → vs.length = cfg.children.length ∧
          ∀ (i : Nat) fields child, vs[i]? = some (.obj fields) → cfg.children[i]? = some child →
            childRecord.Reads fields child

/-- The different names of every object that is decoded. -/
theorem names_nodup_of_unique {v : Json} {rest : List Char}
    (hread : Json.read contents = some (v, rest)) (hunique : v.Unique)
    {o : List Json.Tag × List (String × Json)} (ho : o ∈ decodedObjects contents) :
  (o.2.map Prod.fst).Nodup ∧
    (o.1 = configRecord.tags ∨ o.1 = restartPolicyRecord.tags ∨ o.1 = childRecord.tags)
  := by
  rw [decodedObjects, hread] at ho
  cases v with
  | obj ms =>
      rw [Json.Unique] at hunique
      rcases List.mem_cons.mp ho with rfl | ho
      · exact ⟨hunique.1, .inl rfl⟩
      obtain ⟨m, hm, ho⟩ := List.mem_flatMap.mp ho
      have hm := hunique.2.of_mem hm
      obtain ⟨name, v⟩ := m
      cases v with
      | obj fields =>
          rw [Json.Unique] at hm
          simp only [nestedObjects] at ho
          split at ho
          · cases List.mem_singleton.mp ho
            exact ⟨hm.1, .inr (.inl rfl)⟩
          · cases ho
      | arr vs =>
          rw [Json.Unique] at hm
          simp only [nestedObjects] at ho
          split at ho
          · obtain ⟨v, hv, ho⟩ := List.mem_filterMap.mp ho
            have hv := hm.of_mem hv
            cases v with
            | obj fields =>
                cases ho
                rw [Json.Unique] at hv
                exact ⟨hv.1, .inr (.inr rfl)⟩
            | _ => cases ho
          · cases ho
      | _ => cases ho
  | _ => cases ho

/-! ### What the members say -/

/-- The field in which a member is stored. -/
theorem field?_of_storedIn {field : Json.Field Config} (hfield : field ∈ configRecord.fields)
    {m : String × Json} (hstored : storedIn field.name m) :
  configRecord.field? m.1 = some field
  := by
  obtain ⟨tag, hselect, hname⟩ := Option.any_eq_true _ _ |>.mp hstored
  obtain ⟨f, hf, rfl⟩ := Record.exists_of_select_tags hselect
  rw [hf, Record.eq_of_name (Record.mem_fields hf) hfield (of_decide_eq_true hname)]

theorem decode_elements {vs : List Json} {children : List Child}
    (h : vs.mapM (fun v => childRecord.decode v {}) = some children) :
  vs.length = children.length ∧ ∀ (i : Nat) v child, vs[i]? = some v → children[i]? = some child →
    childRecord.decode v {} = some child
  := by
  induction vs generalizing children with
  | nil =>
      cases h
      exact ⟨rfl, nofun⟩
  | cons v vs ih =>
      rw [List.mapM_cons] at h
      obtain ⟨first, hfirst, h⟩ := Option.bind_eq_some_iff.mp h
      obtain ⟨others, hothers, h⟩ := Option.bind_eq_some_iff.mp h
      cases h
      obtain ⟨hlength, helements⟩ := ih hothers
      refine ⟨congrArg Nat.succ hlength, ?_⟩
      intro i v' child hv hchild
      cases i with
      | zero =>
          cases hv
          cases hchild
          exact hfirst
      | succ i => exact helements i v' child hv hchild

theorem restartField_mem :
  restartField ∈ configRecord.fields
  := by
  simp [configRecord]

theorem childrenField_mem :
  childrenField ∈ configRecord.fields
  := by
  simp [configRecord]

/-- Where no field is assigned twice, what a member says is the value that is used. -/
theorem faithful_of_singlyAssigned {v : Json} {rest : List Char}
    {cfg : Config} (hread : Json.read contents = some (v, rest))
    (hdecode : configRecord.decode v configRecord.zero = some cfg)
    (hsingle : SinglyAssigned contents) :
  Faithful contents cfg
  := by
  intro ms rest' hobj
  rw [hread] at hobj
  cases hobj
  have hobjects : decodedObjects contents =
      (configRecord.tags, ms) :: ms.flatMap nestedObjects := by
    rw [decodedObjects, hread]
  have hnested : ∀ m ∈ ms, ∀ o ∈ nestedObjects m, Json.SinglyAssigned o.1 o.2 := by
    intro m hm o ho
    apply hsingle
    rw [hobjects]
    exact List.mem_cons_of_mem _ (List.mem_flatMap.mpr ⟨m, hm, ho⟩)
  have hroot : configRecord.Reads ms cfg := by
    apply Record.reads_of_singlyAssigned hdecode
    apply hsingle (configRecord.tags, ms)
    rw [hobjects]
    apply List.mem_cons_self
  refine ⟨hroot, ?_⟩
  rintro ⟨name, v⟩ hm
  constructor
  · intro fields hv hstored
    obtain rfl : v = .obj fields := hv
    have hfield : configRecord.field? name = some restartField :=
      field?_of_storedIn restartField_mem hstored
    have hrestart := hroot _ hm restartField hfield
      (Option.isSome_of_mem (Record.assigned_of_not_null hfield rfl))
    apply Record.reads_of_singlyAssigned hrestart
    apply hnested _ hm (restartPolicyRecord.tags, fields)
    simp only [nestedObjects]
    rw [if_pos hstored]
    apply List.mem_singleton_self
  · intro vs hv hstored
    obtain rfl : v = .arr vs := hv
    have hfield : configRecord.field? name = some childrenField :=
      field?_of_storedIn childrenField_mem hstored
    have hchildren := hroot _ hm childrenField hfield
      (Option.isSome_of_mem (Record.assigned_of_not_null hfield rfl))
    obtain ⟨hlength, helements⟩ := decode_elements hchildren
    refine ⟨hlength, ?_⟩
    intro i fields child hv hchild
    apply Record.reads_of_singlyAssigned (helements i _ _ hv hchild)
    apply hnested _ hm (childRecord.tags, fields)
    simp only [nestedObjects]
    rw [if_pos hstored]
    exact List.mem_filterMap.mpr ⟨_, List.mem_of_getElem? hv, rfl⟩

/-- Which accepted documents assign no field twice: those none of whose objects has members whose
names differ only in case. In them, what a member says is the value that is used. -/
theorem load_strict {contents : List UInt8} {cfg : Config} (h : load contents = .ok cfg) :
  (SinglyAssigned contents ↔ UniformlySpelled contents) ∧
    (UniformlySpelled contents → Faithful contents cfg)
  := by
  obtain ⟨-, v, rest, hread, hunique, -, hdecode, -⟩ := load_ok_iff.mp h
  have hiff : SinglyAssigned contents ↔ UniformlySpelled contents := by
    apply forall₂_congr
    intro o ho
    obtain ⟨hnames, htags⟩ := names_nodup_of_unique hread hunique ho
    apply Json.singlyAssigned_iff _ hnames
    rcases htags with htags | htags | htags
    · rw [htags]
      apply Record.tags_folds_nodup
    · rw [htags]
      apply Record.tags_folds_nodup
    · rw [htags]
      apply Record.tags_folds_nodup
  exact ⟨hiff, fun huniform => faithful_of_singlyAssigned hread hdecode (hiff.mpr huniform)⟩

/-- A plain document is accepted when the walk over its tokens succeeds and it is decoded into a
valid configuration. -/
theorem exists_load_bytes {v : Json} (hv : v.Plain)
    (hlength : (Json.bytes v).length ≤ maxConfigFileBytes)
    (hwalk : (walkJSONValue (v.tokens.length + 1) v.tokens).isOk) {p : Config → Bool}
    (hvalid : (configRecord.decode v configRecord.zero).any fun cfg => cfg.validate.isOk && p cfg) :
  ∃ cfg, load (Json.bytes v) = .ok cfg ∧ p cfg
  := by
  have hunique : v.Unique := by
    have h := walkJSONValue_tokens v [] _ (Nat.lt_succ_self _)
    rw [List.append_nil] at h
    rcases h with ⟨hunique, -⟩ | ⟨-, e, h⟩
    · exact hunique
    · rw [h] at hwalk
      cases hwalk
  obtain ⟨cfg, hdecode, h⟩ := (Option.any_eq_true _ _).mp hvalid
  obtain ⟨hok, hp⟩ := Bool.and_eq_true_iff.mp h
  refine ⟨cfg, load_ok_iff.mpr ⟨hlength, v, [], Json.read_bytes hv, hunique, rfl, hdecode, ?_⟩, hp⟩
  cases hvalidate : cfg.validate with
  | error e =>
      rw [hvalidate] at hok
      cases hok
  | ok _ => rfl

namespace Sample

def restart : Json :=
  .obj [("initial_backoff_ms", .int 1000), ("maximum_backoff_ms", .int 8000),
    ("maximum_attempts", .int 4), ("window_ms", .int 60000), ("stable_reset_ms", .int 60000)]

def child : Json :=
  .obj [("name", .str "a"), ("argv", .arr [.str "/a"]), ("working_directory", .str "/w"),
    ("required", .bool true)]

/-- A document that sets the timeout of the shutdown in the given members. -/
def document (shutdown : List (String × Json)) : Json :=
  .obj (shutdown ++ [("schema_version", .int 1), ("listen_address", .str "127.0.0.1:80"),
    ("state_directory", .str "/s"), ("heartbeat_poll_ms", .int 500),
    ("heartbeat_stale_ms", .int 2000), ("heartbeat_startup_timeout_ms", .int 110000),
    ("termination_grace_ms", .int 5000), ("maximum_event_entries", .int 4096),
    ("maximum_event_bytes", .int 8388608), ("restart", restart), ("children", .arr [child])])

/-- The document sets the timeout once. -/
def plainDocument : Json := document [("shutdown_timeout_ms", .int 15000)]

/-- The document sets the timeout twice. -/
def ambiguousDocument : Json :=
  document [("shutdown_timeout_ms", .int 15000), ("Shutdown_Timeout_MS", .int 20000)]

end Sample

/-- The document that sets the timeout once. -/
theorem load_strict_sample :
  ∃ cfg, load (Json.bytes Sample.plainDocument) = .ok cfg ∧
    (SinglyAssigned (Json.bytes Sample.plainDocument) ↔
      UniformlySpelled (Json.bytes Sample.plainDocument)) ∧
    (UniformlySpelled (Json.bytes Sample.plainDocument) →
      Faithful (Json.bytes Sample.plainDocument) cfg)
  := by
  have hplain : Sample.plainDocument.Plain := by
    decide +kernel
  have hlength : (Json.bytes Sample.plainDocument).length ≤ maxConfigFileBytes := by
    decide +kernel
  have hwalk : (walkJSONValue (Sample.plainDocument.tokens.length + 1)
      Sample.plainDocument.tokens).isOk := by
    decide +kernel
  have hvalid : (configRecord.decode Sample.plainDocument configRecord.zero).any
      fun cfg => cfg.validate.isOk && cfg.shutdownTimeoutMS = 15000 := by
    decide +kernel
  obtain ⟨cfg, hload, -⟩ := exists_load_bytes hplain hlength hwalk hvalid
  exact ⟨cfg, hload, load_strict hload⟩

/-- A timeout that is set twice, in different cases, is accepted, and the second value is used. -/
theorem load_assigns_twice :
  ∃ cfg, load (Json.bytes Sample.ambiguousDocument) = .ok cfg ∧ cfg.shutdownTimeoutMS = 20000 ∧
    ¬ SinglyAssigned (Json.bytes Sample.ambiguousDocument)
  := by
  have hplain : Sample.ambiguousDocument.Plain := by
    decide +kernel
  have hlength : (Json.bytes Sample.ambiguousDocument).length ≤ maxConfigFileBytes := by
    decide +kernel
  have hwalk : (walkJSONValue (Sample.ambiguousDocument.tokens.length + 1)
      Sample.ambiguousDocument.tokens).isOk := by
    decide +kernel
  have hvalid : (configRecord.decode Sample.ambiguousDocument configRecord.zero).any
      fun cfg => cfg.validate.isOk && cfg.shutdownTimeoutMS = 20000 := by
    decide +kernel
  have htwice : ∃ m m' ms tag, Sample.ambiguousDocument = .obj (m :: m' :: ms) ∧
      Json.assigned configRecord.tags m = some tag ∧
      Json.assigned configRecord.tags m' = some tag := by
    refine ⟨_, _, _, ⟨"shutdown_timeout_ms", false⟩, rfl, ?_, ?_⟩
    · decide +kernel
    · decide +kernel
  obtain ⟨cfg, hload, htimeout⟩ := exists_load_bytes hplain hlength hwalk hvalid
  refine ⟨cfg, hload, of_decide_eq_true htimeout, ?_⟩
  intro hsingle
  obtain ⟨m, m', ms, tag, hdocument, hm, hm'⟩ := htwice
  have hroot := hsingle (configRecord.tags, m :: m' :: ms) <| by
    rw [decodedObjects, Json.read_bytes hplain, hdocument]
    apply List.mem_cons_self
  exact (List.pairwise_cons.mp hroot).1 m' List.mem_cons_self tag ⟨hm, hm'⟩

end Configuration

end Supervisor

end RobotestLab
