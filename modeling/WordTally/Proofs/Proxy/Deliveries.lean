import WordTally.Pipeline.Config
import WordTally.Proofs.Json.Shapes
import WordTally.Proofs.Proxy.Refusals
import WordTally.Proofs.Record.Decoding

set_option autoImplicit false

namespace WordTally.Proxy

open Http Http.Network Json Pipeline

/-- The node is a JSON value, with room for so many levels of arrays and objects. -/
def IsJson (levels : Nat) (node : Node) (json : Json) : Prop := node.value levels = .ok json

/-- The text of a key: null is no text, as if the key were missing, and what is no text itself
stands for its JSON text. -/
inductive KeyText : Option Json → Option String → Prop where
  | missing : KeyText none none
  | null : KeyText (some .null) none
  | text (key : String) : KeyText (some (.string key)) (some key)
  | other (key : Json) (filled : key ≠ .null) (noText : ∀ text, key ≠ .string text) :
      KeyText (some key) (some key.text)

/-- Members describe a record: they give its position, and perhaps its key and its value, none of
them twice; other members only have to be such that they can be passed over. -/
structure Describes (levels : Nat) (named : Named) (raw : RawRecord) : Prop where
  others : ∀ member ∈ named, member.1 ∉ ["key", "value", "partition", "offset"] →
    member.2.skip = .ok ()
  key : ∃ key, Gives named "key" (IsJson levels) key ∧ KeyText key raw.key
  value : ∃ value, Gives named "value" (IsJson levels) value ∧ raw.value = value.getD .null
  partition : Gives named "partition" (Node.IsNatural Text.max32) (some raw.partition)
  offset : Gives named "offset" (Node.IsNatural Text.max64) (some raw.offset)

/-- A record is an object with members that describe it, or the array of its four fields. -/
inductive IsRecord (levels : Nat) : Node → RawRecord → Prop where
  | object (named : Named) (raw : RawRecord) (describes : Describes levels named raw) :
      IsRecord levels (.object named.inTree .closed) raw
  | array (key value partition offset : Node) (raw : RawRecord)
      (describes : Describes levels [("key", key), ("value", value), ("partition", partition),
        ("offset", offset)] raw) :
      IsRecord levels (.array [key, value, partition, offset] .closed) raw

/-- A text is a batch: an array of records and nothing else. Two of the levels are used up around
the values. -/
def IsBatch (document : Document) (batch : List RawRecord) : Prop :=
  document.trailing = false ∧ document.root.IsList (IsRecord (deepest - 2)) batch

section Keys

variable {levels : Nat} {node : Node} {named : Named} {name : String}

theorem value_eq_null_iff : node.value levels = .ok .null ↔ node = .null := by
  constructor
  · intro read
    cases node with
    | null => rfl
    | bool | broken => simp [Node.value] at read
    | number reading | string reading =>
      obtain ⟨_, _, same⟩ := map_eq_ok_iff.mp (by simpa only [Node.value] using read)
      cases same
    | array items finish =>
      cases levels with
      | zero => simp [Node.value] at read
      | succ levels =>
        rw [Node.value] at read
        obtain ⟨_, -, read⟩ := bind_eq_ok_iff.mp read
        obtain ⟨_, -, same⟩ := bind_eq_ok_iff.mp read
        cases same
    | object members finish =>
      cases levels with
      | zero => simp [Node.value] at read
      | succ levels =>
        rw [Node.value] at read
        obtain ⟨_, -, read⟩ := bind_eq_ok_iff.mp read
        obtain ⟨_, -, same⟩ := bind_eq_ok_iff.mp read
        cases same
  · rintro rfl
    rfl

theorem keyText_of_filled {key : Json} (filled : key ≠ .null) :
    KeyText (some key) (keyText key) := by
  cases key with
  | null => exact absurd rfl filled
  | string key => exact .text key
  | bool | number | array | object => exact .other _ filled nofun

theorem keyText_eq {key : Option Json} {text : Option String} (means : KeyText key text) :
    key.bind keyText = text := by
  cases means with
  | missing | null | text => rfl
  | other key filled noText =>
    cases key with
    | null => exact absurd rfl filled
    | string key => exact absurd rfl (noText key)
    | bool | number | array | object => rfl

/-- A key that is null is kept like one that is missing. -/
theorem exists_key_of_gives {stored : Option (Option Json)}
    (gives : Gives named name
      (fun node value => node.optional (Node.value levels) = .ok value) stored) :
    ∃ key, Gives named name (IsJson levels) key ∧
      KeyText key ((stored.getD none).bind keyText) := by
  cases gives with
  | nothing absent => exact ⟨none, .nothing absent, .missing⟩
  | once before after node value whole alone meant =>
    cases Node.optional_eq_ok_iff.mp meant with
    | null => exact ⟨some .null, .once before after _ _ whole alone rfl, .null⟩
    | value _ key there read =>
      refine ⟨some key, .once before after _ _ whole alone read, keyText_of_filled ?_⟩
      rintro rfl
      exact there (value_eq_null_iff.mp read)

theorem exists_stored_of_gives {key : Option Json} (gives : Gives named name (IsJson levels) key) :
    ∃ stored, Gives named name
        (fun node value => node.optional (Node.value levels) = .ok value) stored ∧
      (stored.getD none).bind keyText = key.bind keyText := by
  cases gives with
  | nothing absent => exact ⟨none, .nothing absent, rfl⟩
  | once before after node key whole alone read =>
    by_cases null : node = .null
    · subst null
      cases read
      exact ⟨some none, .once before after _ _ whole alone rfl, rfl⟩
    · have kept := Node.optional_eq_ok_iff.mpr (.value node key null read)
      exact ⟨some (some key), .once before after _ _ whole alone kept, rfl⟩

end Keys

namespace Consumed

theorem field_cases {field : Json.Field PartialRecord} (member : field ∈ consumedRecord.fields) :
    (field.name = "key" ∧ field.Fills PartialRecord.key
      (fun levels node => node.optional (Node.value levels))
      fun record key => { record with key := some key }) ∨
    (field.name = "value" ∧ field.Fills PartialRecord.value
      (fun levels node => node.value levels)
      fun record value => { record with value := some value }) ∨
    (field.name = "partition" ∧ field.Fills PartialRecord.partition
      (fun _ node => node.natural Text.max32 "u32")
      fun record partition => { record with partition := some partition }) ∨
    (field.name = "offset" ∧ field.Fills PartialRecord.offset
      (fun _ node => node.natural Text.max64 "u64")
      fun record offset => { record with offset := some offset }) := by
  simp only [consumedRecord, List.mem_cons, List.not_mem_nil, or_false] at member
  rcases member with rfl | rfl | rfl | rfl
  · exact .inl ⟨rfl, fun _ => rfl, fun _ _ _ => rfl, fun _ _ => rfl⟩
  · exact .inr (.inl ⟨rfl, fun _ => rfl, fun _ _ _ => rfl, fun _ _ => rfl⟩)
  · exact .inr (.inr (.inl ⟨rfl, fun _ => rfl, fun _ _ _ => rfl, fun _ _ => rfl⟩))
  · exact .inr (.inr (.inr ⟨rfl, fun _ => rfl, fun _ _ _ => rfl, fun _ _ => rfl⟩))

theorem keeps_key : consumedRecord.Keeps "key" PartialRecord.key fun levels node =>
    node.optional (Node.value levels) := by
  refine Shape.keeps_of_fields rfl fun field member => ?_
  rcases field_cases member with ⟨called, fills⟩ | ⟨called, fills⟩ | ⟨called, fills⟩ |
    ⟨called, fills⟩
  · exact .inl ⟨called, fills.stores⟩
  all_goals exact .inr ⟨by simp [called], fills.spares fun _ _ => rfl⟩

theorem keeps_value : consumedRecord.Keeps "value" PartialRecord.value fun levels node =>
    node.value levels := by
  refine Shape.keeps_of_fields rfl fun field member => ?_
  rcases field_cases member with ⟨called, fills⟩ | ⟨called, fills⟩ | ⟨called, fills⟩ |
    ⟨called, fills⟩
  rotate_left
  · exact .inl ⟨called, fills.stores⟩
  all_goals exact .inr ⟨by simp [called], fills.spares fun _ _ => rfl⟩

theorem keeps_partition : consumedRecord.Keeps "partition" PartialRecord.partition fun _ node =>
    node.natural Text.max32 "u32" := by
  refine Shape.keeps_of_fields rfl fun field member => ?_
  rcases field_cases member with ⟨called, fills⟩ | ⟨called, fills⟩ | ⟨called, fills⟩ |
    ⟨called, fills⟩
  rotate_left 2
  · exact .inl ⟨called, fills.stores⟩
  all_goals exact .inr ⟨by simp [called], fills.spares fun _ _ => rfl⟩

theorem keeps_offset : consumedRecord.Keeps "offset" PartialRecord.offset fun _ node =>
    node.natural Text.max64 "u64" := by
  refine Shape.keeps_of_fields rfl fun field member => ?_
  rcases field_cases member with ⟨called, fills⟩ | ⟨called, fills⟩ | ⟨called, fills⟩ |
    ⟨called, fills⟩
  rotate_left 3
  · exact .inl ⟨called, fills.stores⟩
  all_goals exact .inr ⟨by simp [called], fills.spares fun _ _ => rfl⟩

theorem regular : consumedRecord.Regular := by
  refine ⟨by decide, fun field member => ?_⟩
  rcases field_cases member with ⟨called, -⟩ | ⟨called, -⟩ | ⟨called, -⟩ | ⟨called, -⟩
  · exact ⟨_, _, _, called ▸ keeps_key⟩
  · exact ⟨_, _, _, called ▸ keeps_value⟩
  · exact ⟨_, _, _, called ▸ keeps_partition⟩
  · exact ⟨_, _, _, called ▸ keeps_offset⟩

theorem isRecord_iff {levels : Nat} {node : Node} {raw : RawRecord} :
    IsRecord levels node raw ↔
      ∃ named, consumedRecord.Consists node named ∧ Describes levels named raw := by
  constructor
  · intro record
    cases record with
    | object named _ describes => exact ⟨named, .object named, describes⟩
    | array key value partition offset _ describes =>
      exact ⟨_, .array [key, value, partition, offset] (Nat.le_refl 4) nofun, describes⟩
  · rintro ⟨named, consists, describes⟩
    cases consists with
    | object => exact .object named raw describes
    | array items fits rest =>
      match items with
      | [key, value, partition, offset] => exact .array key value partition offset raw describes
      | [] | [_] | [_, _] | [_, _, _] =>
        have last := rest (consumedRecord.fields.getLast (by decide)) (by simp [consumedRecord])
        cases last
      | _ :: _ :: _ :: _ :: _ :: _ =>
        simp only [consumedRecord, List.length_cons, List.length_nil] at fits
        omega

theorem complete_eq_ok_iff {record : PartialRecord} {raw : RawRecord} :
    record.complete = .ok raw ↔
      record.partition = some raw.partition ∧ record.offset = some raw.offset ∧
      (record.key.getD none).bind keyText = raw.key ∧ record.value.getD .null = raw.value := by
  unfold PartialRecord.complete
  simp only [bind_eq_ok_iff, required_eq_ok_iff]
  constructor
  · rintro ⟨partition, first, offset, second, same⟩
    cases same
    exact ⟨first, second, rfl, rfl⟩
  · rintro ⟨first, second, third, fourth⟩
    refine ⟨_, first, _, second, ?_⟩
    rw [third, fourth]
    rfl

theorem readRecord_eq_ok_iff {levels : Nat} {node : Node} {raw : RawRecord} :
    (consumedRecord.read (levels + 1) node >>= PartialRecord.complete) = .ok raw ↔
      IsRecord levels node raw := by
  rw [bind_eq_ok_iff, isRecord_iff]
  constructor
  · rintro ⟨record, read, completed⟩
    obtain ⟨named, consists, renders⟩ := Shape.renders_of_read regular read
    obtain ⟨partition, offset, key, value⟩ := complete_eq_ok_iff.mp completed
    refine ⟨named, consists, renders.skipped, ?_, ?_, ?_, ?_⟩
    · rw [← key]
      exact exists_key_of_gives (renders.gives keeps_key (by decide))
    · exact ⟨_, renders.gives keeps_value (by decide), value.symm⟩
    · rw [← partition]
      exact (renders.gives keeps_partition (by decide)).imp fun _ _ => Node.natural_eq_ok_iff.mp
    · rw [← offset]
      exact (renders.gives keeps_offset (by decide)).imp fun _ _ => Node.natural_eq_ok_iff.mp
  · rintro ⟨named, consists, describes⟩
    obtain ⟨key, givesKey, keyText⟩ := describes.key
    obtain ⟨value, givesValue, same⟩ := describes.value
    obtain ⟨stored, givesStored, kept⟩ := exists_stored_of_gives givesKey
    have givesPartition : Gives named "partition"
        (fun node value => node.natural Text.max32 "u32" = .ok value) (some raw.partition) :=
      describes.partition.imp fun _ _ => Node.natural_eq_ok_iff.mpr
    have givesOffset : Gives named "offset"
        (fun node value => node.natural Text.max64 "u64" = .ok value) (some raw.offset) :=
      describes.offset.imp fun _ _ => Node.natural_eq_ok_iff.mpr
    have offers : ∀ name ∈ consumedRecord.names,
        consumedRecord.Offers levels named consumedRecord.blank name := by
      intro name listed
      simp only [Shape.names, consumedRecord, List.map_cons, List.map_nil, List.mem_cons,
        List.not_mem_nil, or_false] at listed
      rcases listed with rfl | rfl | rfl | rfl
      · exact keeps_key.offers givesStored
      · exact keeps_value.offers givesValue
      · exact keeps_partition.offers givesPartition
      · exact keeps_offset.offers givesOffset
    obtain ⟨record, read, renders⟩ := Shape.exists_read regular consists describes.others offers
    refine ⟨record, read, complete_eq_ok_iff.mpr ⟨?_, ?_, ?_, ?_⟩⟩
    · exact renders.part_eq keeps_partition (by decide) givesPartition
    · exact renders.part_eq keeps_offset (by decide) givesOffset
    · rw [renders.part_eq keeps_key (by decide) givesStored, kept, keyText_eq keyText]
    · rw [renders.part_eq keeps_value (by decide) givesValue, same]

end Consumed

theorem records_eq_ok_iff {body : Octets} {batch : List RawRecord} :
    records body = .ok batch ↔ IsBatch (Document.ofOctets body) batch := by
  unfold records IsBatch
  rw [Document.read_eq_ok_iff, and_comm]
  refine and_congr_right fun _ => ?_
  change Node.list (deepest - 1 + 1) _ _ = _ ↔ _
  rw [Node.list_eq_ok_iff]
  have same : (fun node raw => (consumedRecord.read (deepest - 1) node >>=
      PartialRecord.complete) = .ok raw) = IsRecord (deepest - 2) := by
    funext node raw
    exact propext Consumed.readRecord_eq_ok_iff
  exact same ▸ Iff.rfl

namespace Consumer

variable {consumer : Consumer} {network : Network} {body : Octets}

theorem run_poll_of_welcome (open_ : consumer.closed = false)
    (welcomes : network.Welcomes (Call.poll.request consumer.url) body) :
    (consumer.poll.run network).1 =
      match records body with
      | .ok batch => .batch batch
      | .error fault => .failed (.fatal ("records response: " ++ fault.message)) := by
  obtain ⟨status, success, replies⟩ := welcomes
  have sent := run_send_of_replies replies
  unfold Call.request at sent
  dsimp only at sent
  unfold poll
  rw [if_neg (by simp [open_]), run_bind, sent]
  dsimp only [delivered]
  rw [if_pos success]
  cases records body with
  | error fault => rfl
  | ok batch =>
    dsimp only
    split <;> rfl

end Consumer

/-- A poll is answered with success and a whole body. Then it delivers a batch exactly if the body
is one, and otherwise it fails for good. The value of a record may be anything: a record whose value
holds no text is delivered with the others, and the run that reads it counts it, hands over nothing
of it and goes on with the next. -/
theorem poll_all_or_nothing {consumer : Consumer} {network : Network} {body : Octets}
    (open_ : consumer.closed = false)
    (welcomes : network.Welcomes (Consumer.Call.poll.request consumer.url) body) :
    (∀ batch, (consumer.poll.run network).1 = .batch batch ↔
      IsBatch (Document.ofOctets body) batch) ∧
    ((∀ batch, ¬ IsBatch (Document.ofOctets body) batch) →
      ∃ text, (consumer.poll.run network).1 = .failed (.fatal text)) ∧
    ∀ batch, IsBatch (Document.ofOctets body) batch →
      ∀ raw ∈ batch, (∀ text, ¬ raw.value.HoldsText text) →
        (∃ fault, raw.decode = .error ⟨raw.partition, raw.offset, fault⟩) ∧
        ∀ (σ : Type) (config : Config σ) (rest : List RawRecord),
          (config.read raw rest).dispatcher = .reading rest ∧
          (config.read raw rest).workers = config.workers ∧
          (config.read raw rest).counters =
            { config.counters with
              recordsRead := config.counters.recordsRead + 1
              recordsSkipped := config.counters.recordsSkipped + 1 } := by
  rw [Consumer.run_poll_of_welcome open_ welcomes]
  refine ⟨fun batch => ?_, fun no => ?_, fun batch _ raw _ empty => ?_⟩
  · rw [← records_eq_ok_iff]
    cases records body with
    | error fault => simp
    | ok delivered => simp
  · cases read : records body with
    | error fault => exact ⟨_, rfl⟩
    | ok batch => exact absurd (records_eq_ok_iff.mp read) (no batch)
  · obtain ⟨fault, refused⟩ := RawRecord.exists_mismatch empty
    refine ⟨⟨fault, refused⟩, fun σ config rest => ?_⟩
    unfold Config.read
    rw [refused]
    exact ⟨rfl, rfl, rfl⟩

/-- An object and an array, the first with a value that holds no text, and beside it a member that
is no field and whose text is broken. -/
def mixedBody : Octets :=
  ("[\x7b\"offset\":2,\"lang\":\"\\ud800\",\"partition\":1,\"key\":7," ++
    "\"value\":\x7b\"words\":3\x7d\x7d,[null,[\"b\"],0,18446744073709551615]]").toUTF8.toList

def mixed : Network := { flaky with answers := [⟨.respond ⟨200⟩ mixedBody, none⟩] }

theorem mixed_delivered :
    known.closed = false ∧ mixed.Welcomes (Consumer.Call.poll.request known.url) mixedBody ∧
      ∃ batch, (known.poll.run mixed).1 = .batch batch ∧
        (batch.map fun raw =>
          (raw.key, raw.partition, raw.offset, raw.decode.toOption.map Record.text)) =
          [(some "7", 1, 2, none), (none, 0, 18446744073709551615, some "b")] := by
  have welcomes : mixed.Welcomes (Consumer.Call.poll.request known.url) mixedBody :=
    ⟨⟨200⟩, by decide, by decide +kernel, rfl⟩
  have found : (records mixedBody).toOption.map (List.map fun raw =>
      (raw.key, raw.partition, raw.offset, raw.decode.toOption.map Record.text)) =
      some [(some "7", 1, 2, none), (none, 0, 18446744073709551615, some "b")] := by
    decide +kernel
  refine ⟨rfl, welcomes, ?_⟩
  cases read : records mixedBody with
  | error fault =>
    rw [read] at found
    cases found
  | ok batch =>
    rw [read] at found
    have delivered := (poll_all_or_nothing rfl welcomes).1 batch
    exact ⟨batch, delivered.mpr (records_eq_ok_iff.mp read), Option.some.inj found⟩

end WordTally.Proxy
