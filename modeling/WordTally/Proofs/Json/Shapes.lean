import Mathlib.Data.List.Nodup
import WordTally.Proofs.Json.Readers

/-
What is read where a value of one shape is wanted. The reader goes through the text once, and what
it does with a member depends on the members before it; but whether it succeeds, and with what, is
told by the members alone. No field comes twice, each field that is there can be read, and what is
no field can be passed over; and the part of the result that a field stands for is what is said
under its name. Elements of an array count as members called like the fields in their order.
-/

set_option autoImplicit false

namespace WordTally.Json

/-- Members whose names are readable. -/
abbrev Named := List (String × Node)

def Named.inTree (named : Named) : List (Except Fault String × Node) :=
  named.map fun member => (.ok member.1, member.2)

/-- What members give under a name: nothing, or one value, which is what its node means. -/
inductive Gives {α : Type} (named : Named) (name : String) (means : Node → α → Prop) :
    Option α → Prop where
  | nothing (absent : ∀ member ∈ named, member.1 ≠ name) : Gives named name means none
  | once (before after : Named) (node : Node) (value : α)
      (whole : named = before ++ (name, node) :: after)
      (alone : ∀ member ∈ before ++ after, member.1 ≠ name)
      (meant : means node value) : Gives named name means (some value)

namespace Gives

variable {α : Type} {named : Named} {name : String} {means other : Node → α → Prop}
  {given : Option α} {member : String × Node} {node : Node}

theorem cons (gives : Gives named name means given) (elsewhere : member.1 ≠ name) :
    Gives (member :: named) name means given := by
  cases gives with
  | nothing absent => exact .nothing (List.forall_mem_cons.mpr ⟨elsewhere, absent⟩)
  | once before after node value whole alone meant =>
    rw [whole]
    exact .once (member :: before) after node value rfl
      (List.forall_mem_cons.mpr ⟨elsewhere, alone⟩) meant

theorem tail (gives : Gives (member :: named) name means given) (elsewhere : member.1 ≠ name) :
    Gives named name means given := by
  cases gives with
  | nothing absent => exact .nothing (List.forall_mem_cons.mp absent).2
  | once before after node value whole alone meant =>
    cases before with
    | nil =>
      cases whole
      exact absurd rfl elsewhere
    | cons first before =>
      cases whole
      exact .once before after node value rfl (List.forall_mem_cons.mp alone).2 meant

theorem head (gives : Gives ((name, node) :: named) name means given) :
    ∃ value, given = some value ∧ means node value ∧ ∀ member ∈ named, member.1 ≠ name := by
  cases gives with
  | nothing absent => exact absurd rfl (absent _ List.mem_cons_self)
  | once before after found value whole alone meant =>
    cases before with
    | nil =>
      cases whole
      exact ⟨value, rfl, meant, alone⟩
    | cons first before =>
      cases whole
      exact absurd rfl (alone _ List.mem_cons_self)

theorem imp (weaker : ∀ node value, means node value → other node value)
    (gives : Gives named name means given) : Gives named name other given := by
  cases gives with
  | nothing absent => exact .nothing absent
  | once before after node value whole alone meant =>
    exact .once before after node value whole alone (weaker node value meant)

theorem unique {again : Option α} (gives : Gives named name means given)
    (same : Gives named name means again)
    (single : ∀ node value other, means node value → means node other → value = other) :
    given = again := by
  induction named with
  | nil =>
    -- Without members nothing is given.
    have nothing {found : Option α} (gives : Gives [] name means found) : found = none := by
      cases gives with
      | nothing => rfl
      | once before after node value whole => simp at whole
    rw [nothing gives, nothing same]
  | cons member rest ih =>
    obtain ⟨called, node⟩ := member
    by_cases here : called = name
    · subst here
      obtain ⟨value, rfl, meant, -⟩ := gives.head
      obtain ⟨other, rfl, alike, -⟩ := same.head
      rw [single node value other meant alike]
    · exact ih (gives.tail here) (same.tail here)

end Gives

section Fields

variable {σ α : Type} {part : σ → Option α} {reader : Nat → Node → Except Fault α}

/-- A field reads its node in one way, and what it reads becomes a part of the record. -/
structure Field.Stores (field : Field σ) (part : σ → Option α)
    (reader : Nat → Node → Except Fault α) : Prop where
  present : ∀ record, field.present record = (part record).isSome
  reads : ∀ levels node record after, field.read levels node record = .ok after →
    ∃ value, reader levels node = .ok value ∧ part after = some value
  works : ∀ levels node record value, reader levels node = .ok value →
    ∃ after, field.read levels node record = .ok after

def Field.Spares (field : Field σ) (part : σ → Option α) : Prop :=
  ∀ levels node record after, field.read levels node record = .ok after → part after = part record

/-- A part of the record is what the field of some name alone stores. -/
structure Shape.Keeps (shape : Shape σ) (name : String) (part : σ → Option α)
    (reader : Nat → Node → Except Fault α) : Prop where
  blank : part shape.blank = none
  stores : ∀ field ∈ shape.fields, field.name = name → field.Stores part reader
  spares : ∀ field ∈ shape.fields, field.name ≠ name → field.Spares part

/-- A field puts what it reads into its part of the record. -/
structure Field.Fills (field : Field σ) (part : σ → Option α)
    (reader : Nat → Node → Except Fault α) (fill : σ → α → σ) : Prop where
  present : ∀ record, field.present record = (part record).isSome
  reads : ∀ levels node record,
    field.read levels node record = (reader levels node).map (fill record)
  stored : ∀ record value, part (fill record value) = some value

theorem Field.Fills.stores {field : Field σ} {fill : σ → α → σ}
    (fills : field.Fills part reader fill) : field.Stores part reader := by
  refine ⟨fills.present, fun levels node record after read => ?_,
    fun levels node record value read => ?_⟩
  · rw [fills.reads] at read
    obtain ⟨value, meant, rfl⟩ := map_eq_ok_iff.mp read
    exact ⟨value, meant, fills.stored record value⟩
  · exact ⟨fill record value, by rw [fills.reads, read]; rfl⟩

theorem Field.Fills.spares {β : Type} {other : σ → Option β} {field : Field σ} {fill : σ → α → σ}
    (fills : field.Fills part reader fill)
    (kept : ∀ record value, other (fill record value) = other record) : field.Spares other := by
  intro levels node record after read
  rw [fills.reads] at read
  obtain ⟨value, -, rfl⟩ := map_eq_ok_iff.mp read
  exact kept record value

/-- Each field either has the name and stores the part, or has another name and spares it. -/
theorem Shape.keeps_of_fields {shape : Shape σ} {name : String} (blank : part shape.blank = none)
    (fields : ∀ field ∈ shape.fields, field.name = name ∧ field.Stores part reader ∨
      field.name ≠ name ∧ field.Spares part) : shape.Keeps name part reader := by
  refine ⟨blank, fun field member called => ?_, fun field member called => ?_⟩
  · rcases fields field member with ⟨-, stores⟩ | ⟨differs, -⟩
    · exact stores
    · exact absurd called differs
  · rcases fields field member with ⟨same, -⟩ | ⟨-, spares⟩
    · exact absurd same called
    · exact spares

end Fields

namespace Shape

variable {σ : Type} {shape : Shape σ} {levels : Nat}

def names (shape : Shape σ) : List String := shape.fields.map Field.name

/-- Each field has a name of its own and stores a part of its own. -/
structure Regular (shape : Shape σ) : Prop where
  distinct : shape.names.Nodup
  keeps : ∀ field ∈ shape.fields, ∃ (α : Type) (part : σ → Option α)
    (reader : Nat → Node → Except Fault α), shape.Keeps field.name part reader

def field? (shape : Shape σ) (name : String) : Option (Field σ) :=
  shape.fields.find? fun field => field.name == name

variable {name : String} {node : Node} {named : Named} {record next after : σ} {field : Field σ}

theorem mem_of_field? (found : shape.field? name = some field) :
    field ∈ shape.fields ∧ field.name = name :=
  ⟨List.mem_of_find?_eq_some found, by simpa using List.find?_some found⟩

theorem field?_eq_none_iff : shape.field? name = none ↔ name ∉ shape.names := by
  unfold field? names
  rw [List.find?_eq_none, List.mem_map]
  constructor
  · rintro missed ⟨field, member, rfl⟩
    exact missed field member (beq_self_eq_true field.name)
  · intro unlisted field member called
    exact unlisted ⟨field, member, by simpa using called⟩

/-- What is made of one member: its field is read, if it was still missing, or it is passed over. -/
inductive Passes (shape : Shape σ) (levels : Nat) (name : String) (node : Node) (record : σ) :
    σ → Prop where
  | read (field : Field σ) (next : σ) (found : shape.field? name = some field)
      (missing : field.present record = false)
      (works : field.read levels node record = .ok next) : Passes shape levels name node record next
  | pass (unknown : name ∉ shape.names) (skipped : node.skip = .ok ()) :
      Passes shape levels name node record record

theorem readMembers_cons {reading : Except Fault String}
    {rest : List (Except Fault String × Node)} :
    shape.readMembers levels ((reading, node) :: rest) record = .ok after ↔
      ∃ name, reading = .ok name ∧ ∃ next, shape.Passes levels name node record next ∧
        shape.readMembers levels rest next = .ok after := by
  rw [readMembers, bind_eq_ok_iff]
  refine exists_congr fun name => and_congr_right fun _ => ?_
  cases found : shape.fields.find? fun field => field.name == name with
  | some field =>
    replace found : shape.field? name = some field := found
    dsimp only
    constructor
    · intro read
      split at read
      · cases read
      · rename_i missing
        obtain ⟨next, works, later⟩ := bind_eq_ok_iff.mp read
        exact ⟨next, .read field next found (eq_false_of_ne_true missing) works, later⟩
    · rintro ⟨next, passes, later⟩
      cases passes with
      | read other _ same missing works =>
        rw [found] at same
        cases same
        rw [if_neg (by simp [missing])]
        exact bind_eq_ok_iff.mpr ⟨next, works, later⟩
      | pass unknown =>
        rw [field?_eq_none_iff.mpr unknown] at found
        cases found
  | none =>
    replace found : shape.field? name = none := found
    dsimp only
    constructor
    · intro read
      obtain ⟨⟨⟩, skipped, later⟩ := bind_eq_ok_iff.mp read
      exact ⟨record, .pass (field?_eq_none_iff.mp found) skipped, later⟩
    · rintro ⟨next, passes, later⟩
      cases passes with
      | read other _ same =>
        rw [found] at same
        cases same
      | pass _ skipped => exact bind_eq_ok_iff.mpr ⟨(), skipped, later⟩

/-- Members can be read only if their names can. -/
theorem exists_named_of_readMembers {members : List (Except Fault String × Node)}
    (read : shape.readMembers levels members record = .ok after) :
    ∃ named : Named, members = named.inTree := by
  induction members generalizing record with
  | nil => exact ⟨[], rfl⟩
  | cons member rest ih =>
    obtain ⟨reading, node⟩ := member
    obtain ⟨name, rfl, next, -, later⟩ := readMembers_cons.mp read
    obtain ⟨named, rfl⟩ := ih later
    exact ⟨(name, node) :: named, rfl⟩

theorem readMembers_inTree_cons :
    shape.readMembers levels (Named.inTree ((name, node) :: named)) record = .ok after ↔
      ∃ next, shape.Passes levels name node record next ∧
        shape.readMembers levels named.inTree next = .ok after := by
  change shape.readMembers levels ((.ok name, node) :: named.inTree) record = _ ↔ _
  rw [readMembers_cons]
  simp

section Parts

variable {α : Type} {part : σ → Option α} {reader : Nat → Node → Except Fault α}

/-- One member changes a part of the record only if it has the name of that part. -/
theorem Passes.part_eq (passes : shape.Passes levels name node record next) {other : String}
    (keeps : shape.Keeps other part reader) (elsewhere : name ≠ other) :
    part next = part record := by
  cases passes with
  | pass => rfl
  | read field _ found _ works =>
    obtain ⟨member, rfl⟩ := mem_of_field? found
    exact keeps.spares field member elsewhere levels node record next works

/-- What is read as a part of the record is what the members give under its name. -/
theorem gives_of_readMembers (keeps : shape.Keeps name part reader) (listed : name ∈ shape.names)
    (read : shape.readMembers levels named.inTree record = .ok after) :
    (∀ value, part record = some value →
      part after = some value ∧ ∀ member ∈ named, member.1 ≠ name) ∧
    (part record = none →
      Gives named name (fun node value => reader levels node = .ok value) (part after)) := by
  induction named generalizing record with
  | nil =>
    cases read
    refine ⟨fun value same => ⟨same, nofun⟩, fun empty => ?_⟩
    rw [empty]
    exact .nothing nofun
  | cons member rest ih =>
    obtain ⟨other, node⟩ := member
    obtain ⟨next, passes, later⟩ := readMembers_inTree_cons.mp read
    obtain ⟨kept, found⟩ := ih later
    by_cases here : other = name
    · subst here
      cases passes with
      | pass unknown => exact absurd listed unknown
      | read field _ same missing works =>
        obtain ⟨member, rfl⟩ := mem_of_field? same
        have stores := keeps.stores field member rfl
        rw [stores.present] at missing
        obtain ⟨value, meant, stored⟩ := stores.reads levels node record next works
        obtain ⟨stays, alone⟩ := kept value stored
        refine ⟨fun before same => ?_, fun _ => ?_⟩
        · rw [same] at missing
          cases missing
        · rw [stays]
          exact .once [] rest node value rfl alone meant
    · have same := passes.part_eq keeps here
      rw [same] at kept found
      refine ⟨fun value before => ?_, fun empty => (found empty).cons here⟩
      obtain ⟨stays, alone⟩ := kept value before
      exact ⟨stays, List.forall_mem_cons.mpr ⟨here, alone⟩⟩

end Parts

theorem skipped_of_readMembers
    (read : shape.readMembers levels named.inTree record = .ok after) :
    ∀ member ∈ named, member.1 ∉ shape.names → member.2.skip = .ok () := by
  induction named generalizing record with
  | nil => nofun
  | cons member rest ih =>
    obtain ⟨next, passes, later⟩ := readMembers_inTree_cons.mp read
    refine List.forall_mem_cons.mpr ⟨fun unknown => ?_, ih later⟩
    cases passes with
    | pass _ skipped => exact skipped
    | read field _ found => rw [field?_eq_none_iff.mpr unknown] at found; cases found

/-- Under the name of a field the members give nothing, or one value that can be read. -/
def Offers (shape : Shape σ) (levels : Nat) (named : Named) (record : σ) (name : String) : Prop :=
  ∃ (α : Type) (part : σ → Option α) (reader : Nat → Node → Except Fault α),
    shape.Keeps name part reader ∧
      ((∀ member ∈ named, member.1 ≠ name) ∨
        part record = none ∧ ∃ given,
          Gives named name (fun node value => reader levels node = .ok value) given)

/-- What is offered under another name is still there after a member is dealt with. -/
theorem Offers.later {other : String} (passes : shape.Passes levels name node record next)
    (elsewhere : name ≠ other) (offers : shape.Offers levels ((name, node) :: named) record other) :
    shape.Offers levels named next other := by
  obtain ⟨α, part, reader, keeps, offer⟩ := offers
  refine ⟨α, part, reader, keeps, ?_⟩
  rcases offer with absent | ⟨empty, given, gives⟩
  · exact .inl (List.forall_mem_cons.mp absent).2
  · rw [← passes.part_eq keeps elsewhere] at empty
    exact .inr ⟨empty, given, gives.tail elsewhere⟩

/-- Reading succeeds if each field can be read and everything else can be passed over. -/
theorem exists_readMembers
    (skipped : ∀ member ∈ named, member.1 ∉ shape.names → member.2.skip = .ok ())
    (offers : ∀ name ∈ shape.names, shape.Offers levels named record name) :
    ∃ after, shape.readMembers levels named.inTree record = .ok after := by
  induction named generalizing record with
  | nil => exact ⟨record, rfl⟩
  | cons member rest ih =>
    obtain ⟨name, node⟩ := member
    obtain ⟨first, others⟩ := List.forall_mem_cons.mp skipped
    suffices passes : ∃ next, shape.Passes levels name node record next ∧
        ∀ name ∈ shape.names, shape.Offers levels rest next name by
      obtain ⟨next, passes, offers⟩ := passes
      obtain ⟨after, later⟩ := ih others offers
      exact ⟨after, readMembers_inTree_cons.mpr ⟨next, passes, later⟩⟩
    cases found : shape.field? name with
    | none =>
      have unknown := field?_eq_none_iff.mp found
      have passes : shape.Passes levels name node record record := .pass unknown (first unknown)
      refine ⟨record, passes, fun other listed => ?_⟩
      have elsewhere : name ≠ other := fun same => unknown (same ▸ listed)
      exact (offers other listed).later passes elsewhere
    | some field =>
      obtain ⟨member, rfl⟩ := mem_of_field? found
      have listed : field.name ∈ shape.names := List.mem_map_of_mem member
      obtain ⟨α, part, reader, keeps, offer⟩ := offers field.name listed
      rcases offer with absent | ⟨empty, given, gives⟩
      · exact absurd rfl (absent _ List.mem_cons_self)
      · obtain ⟨value, -, meant, alone⟩ := gives.head
        have stores := keeps.stores field member rfl
        obtain ⟨next, works⟩ := stores.works levels node record value meant
        have missing : field.present record = false := by rw [stores.present, empty]; rfl
        have passes : shape.Passes levels field.name node record next :=
          .read field next found missing works
        refine ⟨next, passes, fun other listed => ?_⟩
        by_cases same : field.name = other
        · subst same
          exact ⟨α, part, reader, keeps, .inl alone⟩
        · exact (offers other listed).later passes same

theorem Regular.field?_of_mem (regular : shape.Regular) (member : field ∈ shape.fields) :
    shape.field? field.name = some field := by
  cases found : shape.field? field.name with
  | none => exact absurd (List.mem_map_of_mem member) (field?_eq_none_iff.mp found)
  | some other =>
    obtain ⟨inside, called⟩ := mem_of_field? found
    rw [List.inj_on_of_nodup_map regular.distinct inside member called]

theorem Regular.present_eq (regular : shape.Regular) (member : field ∈ shape.fields)
    (passes : shape.Passes levels name node record next) (elsewhere : name ≠ field.name) :
    field.present next = field.present record := by
  obtain ⟨α, part, reader, keeps⟩ := regular.keeps field member
  have stores := keeps.stores field member rfl
  rw [stores.present, stores.present, passes.part_eq keeps elsewhere]

/-- An array is read like an object whose members are called like the fields in their order. -/
theorem readItems_eq_ok_iff (regular : shape.Regular) {finish : Finish} {index : Nat}
    {fields : List (Field σ)} {items : List Node} (inside : ∀ field ∈ fields, field ∈ shape.fields)
    (distinct : (fields.map Field.name).Nodup)
    (missing : ∀ field ∈ fields, field.present record = false) :
    shape.readItems levels finish index fields items record = .ok after ↔
      finish = .closed ∧ items.length ≤ fields.length ∧
      (∀ field ∈ fields.drop items.length, field.optional = true) ∧
      shape.readMembers levels (Named.inTree ((fields.map Field.name).zip items)) record =
        .ok after := by
  induction fields generalizing items record index with
  | nil =>
    cases items with
    | nil =>
      rw [readItems, bind_eq_ok_iff]
      simp only [check_eq_ok_iff, Finish.closeFault_eq_none_iff]
      constructor
      · rintro ⟨⟨⟩, closed, done⟩
        exact ⟨closed, Nat.le_refl 0, nofun, done⟩
      · rintro ⟨closed, -, -, done⟩
        exact ⟨(), closed, done⟩
    | cons item items => simp [readItems]
  | cons field fields ih =>
    obtain ⟨member, others⟩ := List.forall_mem_cons.mp inside
    obtain ⟨unnamed, distinct⟩ := List.nodup_cons.mp distinct
    obtain ⟨absent, missing⟩ := List.forall_mem_cons.mp missing
    cases items with
    | nil =>
      rw [readItems, bind_eq_ok_iff]
      simp only [check_eq_ok_iff, Finish.arrayFault_eq_none_iff]
      rw [List.length_nil, List.drop_zero, List.forall_mem_cons]
      constructor
      · rintro ⟨⟨⟩, closed, goesOn⟩
        split at goesOn
        · rename_i optional
          obtain ⟨-, -, rest, done⟩ := (ih others distinct missing).mp goesOn
          exact ⟨closed, Nat.zero_le _, ⟨optional, rest⟩, by simpa using done⟩
        · cases goesOn
      · rintro ⟨closed, -, ⟨optional, rest⟩, done⟩
        refine ⟨(), closed, ?_⟩
        rw [if_pos optional]
        exact (ih others distinct missing).mpr ⟨closed, Nat.zero_le _, rest, by simpa using done⟩
    | cons item items =>
      have apart : ∀ other ∈ fields, field.name ≠ other.name := fun other listed same =>
        unnamed (same ▸ List.mem_map_of_mem listed)
      rw [readItems, bind_eq_ok_iff, List.map_cons, List.zip_cons_cons, readMembers_inTree_cons,
        List.length_cons, List.length_cons, List.drop_succ_cons, Nat.add_le_add_iff_right]
      have passes_of {next : σ} (works : field.read levels item record = .ok next) :
          shape.Passes levels field.name item record next :=
        .read field next (regular.field?_of_mem member) absent works
      have still {next : σ} (passes : shape.Passes levels field.name item record next) :
          ∀ other ∈ fields, other.present next = false := fun other listed => by
        rw [regular.present_eq (others other listed) passes (apart other listed)]
        exact missing other listed
      constructor
      · rintro ⟨next, works, goesOn⟩
        obtain ⟨closed, fits, rest, later⟩ :=
          (ih others distinct (still (passes_of works))).mp goesOn
        exact ⟨closed, fits, rest, next, passes_of works, later⟩
      · rintro ⟨closed, fits, rest, next, passes, later⟩
        have missing := still passes
        cases passes with
        | read other _ found _ works =>
          rw [regular.field?_of_mem member] at found
          cases found
          exact ⟨next, works, (ih others distinct missing).mpr ⟨closed, fits, rest, later⟩⟩
        | pass unknown => exact absurd (List.mem_map_of_mem member) unknown

/-- What a value of the shape is made of: the members of an object, or elements that stand for the
first fields, where the other fields may be left out. -/
inductive Consists (shape : Shape σ) : Node → Named → Prop where
  | object (named : Named) : Consists shape (.object named.inTree .closed) named
  | array (items : List Node) (fits : items.length ≤ shape.fields.length)
      (rest : ∀ field ∈ shape.fields.drop items.length, field.optional = true) :
      Consists shape (.array items .closed) (shape.names.zip items)

theorem Regular.blank (regular : shape.Regular) (member : field ∈ shape.fields) :
    field.present shape.blank = false := by
  obtain ⟨α, part, reader, keeps⟩ := regular.keeps field member
  rw [(keeps.stores field member rfl).present, keeps.blank]
  rfl

theorem read_eq_ok_iff (regular : shape.Regular) :
    shape.read (levels + 1) node = .ok after ↔ ∃ named, shape.Consists node named ∧
      shape.readMembers levels named.inTree shape.blank = .ok after := by
  constructor
  · intro read
    cases node with
    | array items finish =>
      rw [Shape.read, readItems_eq_ok_iff regular (fun _ => id) regular.distinct
        fun _ => regular.blank] at read
      obtain ⟨rfl, fits, rest, done⟩ := read
      exact ⟨_, .array items fits rest, done⟩
    | object members finish =>
      rw [Shape.read] at read
      obtain ⟨record, done, read⟩ := bind_eq_ok_iff.mp read
      obtain ⟨⟨⟩, closed, same⟩ := bind_eq_ok_iff.mp read
      cases same
      rw [check_eq_ok_iff, Finish.objectFault_eq_none_iff] at closed
      subst closed
      obtain ⟨named, rfl⟩ := exists_named_of_readMembers done
      exact ⟨named, .object named, done⟩
    | _ => cases read
  · rintro ⟨named, consists, done⟩
    cases consists with
    | object =>
      rw [Shape.read]
      exact bind_eq_ok_iff.mpr ⟨after, done, rfl⟩
    | array items fits rest =>
      rw [Shape.read, readItems_eq_ok_iff regular (fun _ => id) regular.distinct
        fun _ => regular.blank]
      exact ⟨rfl, fits, rest, done⟩

/-- A record as the members tell it: each part is what they give under its name, and what is no
field can be passed over. -/
structure Renders (shape : Shape σ) (levels : Nat) (named : Named) (record : σ) : Prop where
  skipped : ∀ member ∈ named, member.1 ∉ shape.names → member.2.skip = .ok ()
  gives : ∀ {α : Type} {name : String} {part : σ → Option α}
    {reader : Nat → Node → Except Fault α}, shape.Keeps name part reader → name ∈ shape.names →
    Gives named name (fun node value => reader levels node = .ok value) (part record)

theorem renders_of_readMembers
    (read : shape.readMembers levels named.inTree shape.blank = .ok after) :
    shape.Renders levels named after :=
  ⟨skipped_of_readMembers read,
    fun keeps listed => (gives_of_readMembers keeps listed read).2 keeps.blank⟩

/-- Only what has the shape is read, and it is read as its members tell. -/
theorem renders_of_read (regular : shape.Regular)
    (read : shape.read (levels + 1) node = .ok after) :
    ∃ named, shape.Consists node named ∧ shape.Renders levels named after := by
  obtain ⟨named, consists, done⟩ := (read_eq_ok_iff regular).mp read
  exact ⟨named, consists, renders_of_readMembers done⟩

theorem Keeps.offers {α : Type} {part : σ → Option α} {reader : Nat → Node → Except Fault α}
    {given : Option α} (keeps : shape.Keeps name part reader)
    (gives : Gives named name (fun node value => reader levels node = .ok value) given) :
    shape.Offers levels named shape.blank name :=
  ⟨α, part, reader, keeps, .inr ⟨keeps.blank, given, gives⟩⟩

/-- Whatever has the shape can be read. -/
theorem exists_read (regular : shape.Regular) (consists : shape.Consists node named)
    (skipped : ∀ member ∈ named, member.1 ∉ shape.names → member.2.skip = .ok ())
    (offers : ∀ name ∈ shape.names, shape.Offers levels named shape.blank name) :
    ∃ after, shape.read (levels + 1) node = .ok after ∧ shape.Renders levels named after := by
  obtain ⟨after, done⟩ := exists_readMembers skipped offers
  exact ⟨after, (read_eq_ok_iff regular).mpr ⟨named, consists, done⟩, renders_of_readMembers done⟩

/-- The part of a record that its members tell is the only one they can tell. -/
theorem Renders.part_eq {α : Type} {part : σ → Option α} {reader : Nat → Node → Except Fault α}
    {given : Option α} (renders : shape.Renders levels named record)
    (keeps : shape.Keeps name part reader) (listed : name ∈ shape.names)
    (gives : Gives named name (fun node value => reader levels node = .ok value) given) :
    part record = given := by
  refine (renders.gives keeps listed).unique gives fun node value other meant alike => ?_
  exact Except.ok.inj (meant.symm.trans alike)

end Shape

end WordTally.Json
