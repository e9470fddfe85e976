import WordTally.Proofs.Settings.Brokers
import WordTally.Proofs.Url.Reading
import WordTally.Registry

set_option autoImplicit false

namespace WordTally

open Settings

def Variable.check (which : Variable) (value : String) : Except SettingsFault Unit :=
  match which with
  | .brokers => (readBrokers value).map fun _ => ()
  | .schemaRegistry | .restProxy => (readEndpoint value).map fun _ => ()
  | .commitInterval | .shards => (readPositive value).map fun _ => ()
  | .sinkRetries => (readNumber Text.max32 value).map fun _ => ()
  | .sinkBackoff => (readNumber Text.max64 value).map fun _ => ()
  | .resetState => (readBool value).map fun _ => ()
  | .logLevel => (readLevel value).map fun _ => ()

theorem Variable.check_default (which : Variable) : which.check which.default = .ok () := by
  cases which <;> decide +kernel

theorem Variable.mem_all (which : Variable) : which ∈ all := by
  cases which <;> decide

namespace Settings

variable {lookup other : String → Option String} {settings : Settings} {error : SettingsError}
  {which : Variable} {value name : String} {url : Url}

/-- What a variable is set to, without the blanks around it. A blank value is none. -/
def content (value : Option String) : Option String :=
  (value.map Unicode.trim).filter fun word => !word.isEmpty

theorem content_eq_some_iff {set : Option String} : content set = some value ↔
    (∃ raw, set = some raw ∧ Unicode.trim raw = value) ∧ value ≠ "" := by
  simp [content, Option.filter_eq_some_iff]

theorem given_eq (lookup : String → Option String) (name default : String) :
    given lookup name default = (content (lookup name)).getD default := by
  unfold given content
  cases lookup name with
  | none => rfl
  | some raw =>
    dsimp only [Option.map_some]
    cases empty : (Unicode.trim raw).isEmpty <;> simp [empty, Option.filter]

/-- The variable of the error is set to its value, and a reading of that value has the fault. -/
structure Refused (lookup : String → Option String) (error : SettingsError) : Prop where
  value : ∃ raw, lookup error.which.name = some raw ∧ Unicode.trim raw = error.value
  not_blank : error.value ≠ ""
  rejected : error.which.check error.value = .error error.fault

def refusal (lookup : String → Option String) (which : Variable) : Option SettingsError :=
  (content (lookup which.name)).bind fun value =>
    (failure? (which.check value)).map fun fault => ⟨which, value, fault⟩

theorem refusal_eq_some_iff :
    refusal lookup which = some error ↔ error.which = which ∧ Refused lookup error := by
  simp only [refusal, Option.bind_eq_some_iff, Option.map_eq_some_iff, content_eq_some_iff,
    failure?_eq_some_iff]
  constructor
  · rintro ⟨value, ⟨set, not_blank⟩, fault, rejected, rfl⟩
    exact ⟨rfl, set, not_blank, rejected⟩
  · rintro ⟨rfl, refused⟩
    exact ⟨error.value, ⟨refused.value, refused.not_blank⟩, error.fault, refused.rejected, rfl⟩

/-- A default is never at fault. -/
theorem failure?_checked {α : Type} {reader : String → Except SettingsFault α}
    (own : ∀ value, which.check value = (reader value).map fun _ => ()) :
    failure? (checked lookup which reader) = refusal lookup which := by
  have fine : ∃ result, reader which.default = .ok result := by
    obtain ⟨result, read, -⟩ := map_eq_ok_iff.mp ((own _).symm.trans which.check_default)
    exact ⟨result, read⟩
  unfold checked refusal
  dsimp only
  rw [given_eq]
  cases content (lookup which.name) with
  | none =>
    obtain ⟨result, read⟩ := fine
    rw [Option.getD_none, read]
    rfl
  | some value =>
    rw [Option.getD_some, Option.bind_some, own]
    cases reader value <;> rfl

theorem failure?_bind {α β : Type} {reader : String → Except SettingsFault α}
    {next : α → Except SettingsError β} {later : List Variable}
    (own : ∀ value, which.check value = (reader value).map fun _ => ())
    (goesOn : ∀ result, failure? (next result) = later.findSome? (refusal lookup)) :
    failure? (checked lookup which reader >>= next) =
      (which :: later).findSome? (refusal lookup) := by
  rw [List.findSome?_cons, ← failure?_checked own]
  cases checked lookup which reader with
  | error reason => rfl
  | ok result => exact goesOn result

theorem failure?_read (lookup : String → Option String) :
    failure? (Settings.read lookup) = Variable.all.findSome? (refusal lookup) := by
  unfold Settings.read Variable.all
  refine failure?_bind (fun _ => rfl) fun brokers => ?_
  refine failure?_bind (fun _ => rfl) fun registry => ?_
  refine failure?_bind (fun _ => rfl) fun proxy => ?_
  refine failure?_bind (fun _ => rfl) fun commit => ?_
  refine failure?_bind (fun _ => rfl) fun shards => ?_
  refine failure?_bind (fun _ => rfl) fun retries => ?_
  refine failure?_bind (fun _ => rfl) fun backoff => ?_
  refine failure?_bind (fun _ => rfl) fun reset => ?_
  refine failure?_bind (fun _ => rfl) fun level => ?_
  rfl

/-- The error that is reported is that of the first refused variable. -/
theorem read_eq_error_iff : Settings.read lookup = .error error ↔
    Refused lookup error ∧ ∃ earlier later, Variable.all = earlier ++ error.which :: later ∧
      ∀ sooner, Refused lookup sooner → sooner.which ∉ earlier := by
  rw [← failure?_eq_some_iff, failure?_read, List.findSome?_eq_some_iff]
  constructor
  · rintro ⟨earlier, which, later, order, refused, passed⟩
    obtain ⟨rfl, fault⟩ := refusal_eq_some_iff.mp refused
    refine ⟨fault, earlier, later, order, fun sooner before inside => ?_⟩
    have first := refusal_eq_some_iff.mpr ⟨rfl, before⟩
    rw [passed _ inside] at first
    cases first
  · rintro ⟨refused, earlier, later, order, passed⟩
    refine ⟨earlier, error.which, later, order, refusal_eq_some_iff.mpr ⟨rfl, refused⟩, ?_⟩
    intro which inside
    rw [Option.eq_none_iff_forall_ne_some]
    intro sooner found
    obtain ⟨rfl, before⟩ := refusal_eq_some_iff.mp found
    exact passed sooner before inside

theorem exists_read_eq_error_iff :
    (∃ error, Settings.read lookup = .error error) ↔ ∃ error, Refused lookup error := by
  constructor
  · rintro ⟨error, failed⟩
    exact ⟨error, (read_eq_error_iff.mp failed).1⟩
  · rintro ⟨error, refused⟩
    have found : (Variable.all.findSome? (refusal lookup)).isSome :=
      List.findSome?_isSome_iff.mpr ⟨error.which, error.which.mem_all, by
        rw [refusal_eq_some_iff.mpr ⟨rfl, refused⟩, Option.isSome_some]⟩
    obtain ⟨first, reported⟩ := Option.isSome_iff_exists.mp found
    rw [← failure?_read, failure?_eq_some_iff] at reported
    exact ⟨first, reported⟩

def IsBlank (value : Option String) : Prop := ∀ text ∈ value, Unicode.trim text = ""

/-- Two values of a variable that make no difference. Blanks around a value count in the path of
the log file alone. -/
inductive Alike (name : String) : Option String → Option String → Prop
  | same (value : Option String) : Alike name value value
  | blank {value other : Option String} (left : IsBlank value) (right : IsBlank other) :
      Alike name value other
  | padded {text word : String} (elsewhere : name ≠ "WORDCOUNT_LOG_FILE")
      (same : Unicode.trim text = Unicode.trim word) : Alike name (some text) (some word)

theorem content_of_isBlank {value : Option String} (blank : IsBlank value) :
    content value = none := by
  cases value with
  | none => rfl
  | some text =>
    unfold content
    rw [Option.map_some, blank text rfl]
    rfl

theorem filter_of_isBlank {value : Option String} (blank : IsBlank value) :
    value.filter (fun path => !(Unicode.trim path).isEmpty) = none := by
  cases value with
  | none => rfl
  | some text =>
    rw [Option.filter_some, blank text rfl]
    rfl

theorem Alike.content_eq {value other : Option String} (alike : Alike name value other) :
    content other = content value := by
  cases alike with
  | same => rfl
  | blank left right => rw [content_of_isBlank left, content_of_isBlank right]
  | padded _ same => rw [content, content, Option.map_some, Option.map_some, same]

theorem Alike.filter_eq {value other : Option String}
    (alike : Alike "WORDCOUNT_LOG_FILE" value other) :
    other.filter (fun path => !(Unicode.trim path).isEmpty) =
      value.filter fun path => !(Unicode.trim path).isEmpty := by
  cases alike with
  | same => rfl
  | blank left right => rw [filter_of_isBlank left, filter_of_isBlank right]
  | padded elsewhere _ => exact absurd rfl elsewhere

theorem given_congr (alike : Alike name (lookup name) (other name)) (default : String) :
    given other name default = given lookup name default := by
  rw [given_eq, given_eq, alike.content_eq]

theorem checked_congr {α : Type} (alike : Alike which.name (lookup which.name) (other which.name))
    (reader : String → Except SettingsFault α) :
    checked other which reader = checked lookup which reader := by
  rw [checked, checked, given_congr alike]

theorem read_congr (alike : ∀ name ∈ Variable.names, Alike name (lookup name) (other name)) :
    Settings.read other = Settings.read lookup := by
  have checked {which : Variable} {α : Type} (reader : String → Except SettingsFault α) :
      checked other which reader = checked lookup which reader :=
    checked_congr (alike _ (List.mem_append_left _ (List.mem_map_of_mem which.mem_all))) reader
  have given {name : String} (default : String) (unchecked : name ∈ Variable.uncheckedNames) :
      given other name default = given lookup name default :=
    given_congr (alike name (List.mem_append_right _ unchecked)) default
  have logFile := (alike "WORDCOUNT_LOG_FILE" (by decide)).filter_eq
  unfold Settings.read
  simp (disch := decide) only [checked, given, logFile]

/-- The address of a peer is a URL of the web. Such a URL has a host and a hierarchy, so neither is
ever found missing. -/
theorem readEndpoint_eq_ok_iff : readEndpoint value = .ok url ↔
    Url.parse (if (Text.afterMark? "://".toList value.toList).isSome then value
      else "http://" ++ value) = .ok url ∧ url.IsHttp := by
  unfold readEndpoint
  dsimp only
  constructor
  · intro read
    split at read
    · cases read
    · rename_i found parsed
      split at read
      · cases read
      · rename_i http
        split at read
        · cases read
          exact ⟨parsed, or_iff_not_and_not.mpr http⟩
        · cases read
  · rintro ⟨parsed, http⟩
    have complete := Url.complete_of_parse parsed http
    rw [parsed]
    dsimp only
    rw [if_neg (or_iff_not_and_not.mp http), complete.canBeBase, complete.hasHost]
    rfl

/-- A URL below which a peer can be asked. -/
structure Reachable (url : Url) : Prop where
  http : url.IsHttp
  hasHost : url.hasHost = true
  canBeBase : url.canBeBase = true

theorem Reachable.of_readEndpoint (read : readEndpoint value = .ok url) : Reachable url := by
  obtain ⟨parsed, http⟩ := readEndpoint_eq_ok_iff.mp read
  have complete := Url.complete_of_parse parsed http
  exact ⟨http, complete.hasHost, complete.canBeBase⟩

/-- All that the pipeline and the clients of the peers ask of the settings. -/
structure Usable (settings : Settings) : Prop where
  shards : 1 ≤ settings.shards
  commitMillis : 1 ≤ settings.commitMillis
  brokers : settings.brokers ≠ []
  schemaRegistry : Reachable settings.schemaRegistry
  restProxy : Reachable settings.restProxy
  /-- The pipeline has nothing to put right. -/
  clamped : settings.pipeline.clamped = settings.pipeline
  /-- The registry has an endpoint for every list of names. -/
  endpoint : ∀ names, Registry.endpoint ⟨settings.schemaRegistry⟩ names =
    .ok (settings.schemaRegistry.join names)

theorem clamped_pipeline (some_shard : 1 ≤ settings.shards)
    (some_milli : 1 ≤ settings.commitMillis) :
    settings.pipeline.clamped = settings.pipeline := by
  simp [PipelineSettings.clamped, pipeline, PipelineSettings.standard, some_shard, some_milli]

theorem Usable.of_read (read : Settings.read lookup = .ok settings) : Usable settings := by
  have source := readFrom_of_read read
  have some_shard := readPositive_pos source.shards
  have some_milli := readPositive_pos source.commitMillis
  have registry := Reachable.of_readEndpoint source.schemaRegistry
  exact {
    shards := some_shard
    commitMillis := some_milli
    brokers := (readBrokers_eq_ok_iff.mp source.brokers).1
    schemaRegistry := registry
    restProxy := .of_readEndpoint source.restProxy
    clamped := clamped_pipeline some_shard some_milli
    endpoint := fun names => by rw [Registry.endpoint, if_pos registry.canBeBase] }

/-- Reading the settings fails exactly if a variable is refused, and reports the first such variable
in the order of the checks, with its value. Neither blank values nor, but for the path of the log
file, blanks around a value make a difference. Settings that are read are usable as they are. -/
theorem read_validates (lookup : String → Option String) :
    ((∃ error, Settings.read lookup = .error error) ↔ ∃ error, Refused lookup error) ∧
    (∀ error, Settings.read lookup = .error error ↔
      Refused lookup error ∧ ∃ earlier later, Variable.all = earlier ++ error.which :: later ∧
        ∀ sooner, Refused lookup sooner → sooner.which ∉ earlier) ∧
    (∀ other : String → Option String,
      (∀ name ∈ Variable.names, Alike name (lookup name) (other name)) →
        Settings.read other = Settings.read lookup) ∧
    ∀ settings, Settings.read lookup = .ok settings → Usable settings :=
  ⟨exists_read_eq_error_iff, fun _ => read_eq_error_iff, fun _ => read_congr,
    fun _ => Usable.of_read⟩

def mistaken (name : String) : Option String :=
  if name = "WORDCOUNT_SINK_MAX_RETRIES" then some "many"
  else if name = "WORDCOUNT_SHARDS" then some " 0 "
  else none

/-- The number of shards is checked before that of retries. Where nothing is set, the defaults are
usable. -/
theorem shards_reported_first :
    Refused mistaken ⟨.sinkRetries, "many", .numeral .invalidDigit⟩ ∧
    Settings.read mistaken = .error ⟨.shards, "0", .zero⟩ ∧
    ∃ settings, Settings.read (fun _ => none) = .ok settings ∧ Usable settings := by
  refine ⟨⟨⟨"many", by decide, by decide⟩, by decide, by decide⟩, ?_, ?_⟩
  · have order : Variable.all = [.brokers, .schemaRegistry, .restProxy, .commitInterval] ++
        .shards :: [.sinkRetries, .sinkBackoff, .resetState, .logLevel] := rfl
    have unset : ∀ which ∈ [Variable.brokers, .schemaRegistry, .restProxy, .commitInterval],
        mistaken which.name = none := by decide
    refine ((read_validates mistaken).2.1 ⟨.shards, "0", .zero⟩).mpr
      ⟨⟨⟨" 0 ", by decide, by decide⟩, by decide, by decide⟩, _, _, order, ?_⟩
    intro sooner refused inside
    obtain ⟨raw, set, -⟩ := refused.value
    rw [unset _ inside] at set
    cases set
  · obtain ⟨fails, -, -, usable⟩ := read_validates fun _ => none
    cases result : Settings.read (fun _ => none) with
    | ok settings => exact ⟨settings, rfl, usable settings result⟩
    | error error =>
      obtain ⟨_, refused⟩ := fails.mp ⟨error, result⟩
      obtain ⟨raw, set, -⟩ := refused.value
      cases set

end Settings

end WordTally
