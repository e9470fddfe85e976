import WordTally.Json.Reader
import WordTally.Proofs.Outcomes

/-
What each reader of a parse tree accepts. A tree keeps what is wrong with the text it comes from, so
a reader accepts a node that has the right shape and no fault.
-/

set_option autoImplicit false

namespace WordTally.Json

theorem check_eq_ok_iff {fault : Option Fault} {done : Unit} :
    check fault = .ok done ↔ fault = none := by
  cases fault <;> simp [check]

namespace Finish

variable {finish : Finish}

theorem arrayFault_eq_none_iff : finish.arrayFault = none ↔ finish = .closed := by
  cases finish <;> simp [arrayFault]

theorem closeFault_eq_none_iff : finish.closeFault = none ↔ finish = .closed := by
  cases finish <;> simp [closeFault]

theorem objectFault_eq_none_iff : finish.objectFault = none ↔ finish = .closed := by
  cases finish <;> simp [objectFault]

end Finish

namespace Node

variable {α : Type} {node : Node} {levels : Nat}

def IsInteger (least most : Int) (node : Node) (n : Int) : Prop :=
  node = .number (.ok (.integer n)) ∧ least ≤ n ∧ n ≤ most

def IsNatural (most : Nat) (node : Node) (n : Nat) : Prop :=
  node = .number (.ok (.integer n)) ∧ n ≤ most

def IsText (node : Node) (text : String) : Prop := node = .string (.ok text)

/-- The node is null, for no value, or it is a value of some kind. -/
inductive IsOptional (means : Node → α → Prop) : Node → Option α → Prop where
  | null : IsOptional means .null none
  | value (node : Node) (value : α) (there : node ≠ .null) (meant : means node value) :
      IsOptional means node (some value)

def IsList (means : Node → α → Prop) (node : Node) (values : List α) : Prop :=
  ∃ items, node = .array items .closed ∧ List.Forall₂ means items values

theorem integer_eq_ok_iff {least most n : Int} {type : String} :
    node.integer least most type = .ok n ↔ node.IsInteger least most n := by
  unfold IsInteger
  constructor
  · intro read
    unfold integer at read
    split at read
    · rename_i value
      split at read
      · rename_i within
        cases read
        exact ⟨rfl, within⟩
      · cases read
    · cases read
  · rintro ⟨rfl, within⟩
    rw [integer, if_pos within]

theorem natural_eq_ok_iff {most n : Nat} {type : String} :
    node.natural most type = .ok n ↔ node.IsNatural most n := by
  unfold natural IsNatural
  rw [map_eq_ok_iff]
  simp only [integer_eq_ok_iff]
  constructor
  · rintro ⟨value, ⟨rfl, positive, small⟩, rfl⟩
    rw [Int.toNat_of_nonneg positive]
    exact ⟨rfl, by omega⟩
  · rintro ⟨rfl, small⟩
    exact ⟨n, ⟨rfl, by omega, by omega⟩, Int.toNat_natCast n⟩

theorem text_eq_ok_iff {text : String} : node.text = .ok text ↔ node.IsText text := by
  unfold IsText
  cases node <;> simp [Node.text]

theorem optional_eq_ok_iff {reader : Node → Except Fault α} {value : Option α} :
    node.optional reader = .ok value ↔
      IsOptional (fun node value => reader node = .ok value) node value := by
  constructor
  · intro read
    unfold optional at read
    split at read
    · cases read
      exact .null
    · rename_i there
      obtain ⟨found, meant, rfl⟩ := map_eq_ok_iff.mp read
      exact .value _ found there meant
  · intro meant
    cases meant with
    | null => rfl
    | value _ found there read =>
      unfold optional
      split
      · exact absurd rfl there
      · exact map_eq_ok_iff.mpr ⟨found, read, rfl⟩

theorem list_eq_ok_iff {reader : Nat → Node → Except Fault α} {values : List α} :
    node.list (levels + 1) reader = .ok values ↔
      IsList (fun node value => reader levels node = .ok value) node values := by
  constructor
  · intro read
    unfold Node.list at read
    split at read
    · rename_i items finish
      obtain ⟨found, mapped, read⟩ := bind_eq_ok_iff.mp read
      obtain ⟨⟨⟩, closed, same⟩ := bind_eq_ok_iff.mp read
      cases same
      rw [check_eq_ok_iff, Finish.arrayFault_eq_none_iff] at closed
      subst closed
      exact ⟨items, rfl, mapM_eq_ok_iff.mp mapped⟩
    · cases read
  · rintro ⟨items, rfl, each⟩
    exact bind_eq_ok_iff.mpr ⟨values, mapM_eq_ok_iff.mpr each, rfl⟩

end Node

theorem required_eq_ok_iff {α : Type} {name : String} {found : Option α} {value : α} :
    required name found = .ok value ↔ found = some value := by
  cases found <;> simp [required]

namespace Document

variable {α : Type} {document : Document} {reader : Node → Except Fault α} {value : α}

theorem read_eq_ok_iff :
    document.read reader = .ok value ↔
      reader document.root = .ok value ∧ document.trailing = false := by
  unfold Document.read
  rw [bind_eq_ok_iff]
  constructor
  · rintro ⟨found, read, rest⟩
    split at rest
    · cases rest
    · rename_i alone
      cases rest
      exact ⟨read, eq_false_of_ne_true alone⟩
  · rintro ⟨read, alone⟩
    exact ⟨value, read, by rw [if_neg (by simp [alone])]⟩

end Document

end WordTally.Json
