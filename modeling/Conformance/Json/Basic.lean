import Conformance.Binary64.Rounding
import Conformance.Entries

/-!
# JSON documents

`Json` is a JSON document as a tree.  Objects keep the order of their members, and a tree that was
just read may hold a key more than once; `Json.resolve` settles that the way documents are meant to
be taken, and `Json.WellFormed` is the class of trees where it is settled.

Numbers come in two kinds, because two things depend on the spelling: a number written as an integer
stays an exact integer if it fits 64 bits, signed or unsigned, and all others are binary64 numbers.

* `Json.Number.toBinary64` is the binary64 number nearest to either kind.
* `Json.Number.ofBinary64?` is the canonical number of a binary64 value: **whole numbers in the
  integer range are written as integers, everything else finite as a float**, and what is not finite
  has no JSON number.
* `Json.resolve` gives every repeated key its last content in its first place.
-/

namespace Conformance

/-- Integers that a JSON number holds exactly: those of 64 bits, from `-2 ^ 63` to `2 ^ 64 - 1`. -/
def Json.InIntegerRange (n : Int) : Prop :=
  -0x8000_0000_0000_0000 ≤ n ∧ n < 0x1_0000_0000_0000_0000

instance (n : Int) : Decidable (Json.InIntegerRange n) :=
  inferInstanceAs (Decidable (_ ∧ _))

/-- A JSON number, as an exact integer or as a finite binary64 number. -/
inductive Json.Number where
  | integer (n : Int) (inRange : Json.InIntegerRange n)
  | float (x : Binary64.Finite)
deriving DecidableEq

/-- A JSON document. -/
inductive Json where
  | null
  | bool (b : Bool)
  | number (n : Json.Number)
  | string (s : String)
  | array (elements : List Json)
  | object (members : List (String × Json))

namespace Json

/-! ## Numbers -/

/-- The binary64 number nearest to a JSON number. -/
def Number.toBinary64 : Number → Binary64
  | .integer n _ => Binary64.ofInt n
  | .float x => .finite x

/-- A signed 64-bit integer as a JSON number. -/
def Number.ofInt64 (n : Int64) : Number :=
  .integer n.toInt (by
    have := n.le_toInt
    have := n.toInt_lt
    unfold InIntegerRange
    omega)

/-- An unsigned 64-bit integer as a JSON number. -/
def Number.ofUInt64 (n : UInt64) : Number :=
  .integer n.toNat (by
    have := n.toNat_lt
    unfold InIntegerRange
    omega)

/-- The canonical JSON number of a finite number.  The greatest integers of 64 bits are no binary64
numbers: rounded, they are `2 ^ 63` and `2 ^ 64`, the first numbers that are too large. -/
def Number.ofFinite (x : Binary64.Finite) : Number :=
  if ¬ x.isWhole then
    .float x
  else if .ofInt64 .minValue ≤ Binary64.finite x ∧ .finite x < Binary64.ofInt64 .maxValue then
    .ofInt64 x.toInt64
  else if .finite (.zero false) < Binary64.finite x ∧
      .finite x < Binary64.ofUInt64 0xFFFF_FFFF_FFFF_FFFF then
    .ofUInt64 x.toUInt64
  else
    .float x

/-- The canonical JSON number of a binary64 number, if it is finite. -/
def Number.ofBinary64? : Binary64 → Option Number
  | .finite x => some (.ofFinite x)
  | _ => none

/-- The signed 64-bit integer that a JSON number is.  **A float is none**, whole or not. -/
def Number.toInt64? : Number → Option Int64
  | .integer n inRange =>
    if small : n < 0x8000_0000_0000_0000 then
      some (Int64.ofIntLE n
        (by have := inRange.1; rw [Int64.toInt_minValue]; omega)
        (by rw [Int64.toInt_maxValue]; omega))
    else
      none
  | .float _ => none

@[simp] theorem Number.toInt64?_ofInt64 (n : Int64) : (ofInt64 n).toInt64? = some n := by
  have small : n.toInt < 0x8000_0000_0000_0000 := n.toInt_lt
  simp only [ofInt64, toInt64?, small, dite_true, Option.some.injEq]
  exact Int64.toInt_inj.1 Int64.toInt_ofIntLE

/-! ## Repeated keys -/

mutual

/-- The tree with every repeated key counted once, at its first place, with its last content. -/
def resolve : Json → Json
  | null => null
  | bool b => bool b
  | number n => number n
  | string s => string s
  | array elements => array (resolveElements elements)
  | object members => object (Entries.ofList (resolveMembers members))

/-- `resolve` on the elements of an array. -/
def resolveElements : List Json → List Json
  | [] => []
  | element :: rest => element.resolve :: resolveElements rest

/-- `resolve` on the contents of members, their keys left as they are. -/
def resolveMembers : List (String × Json) → List (String × Json)
  | [] => []
  | (key, content) :: rest => (key, content.resolve) :: resolveMembers rest

end

mutual

/-- No object anywhere in the tree holds a key twice. -/
def WellFormed : Json → Prop
  | null | bool _ | number _ | string _ => True
  | array elements => WellFormedElements elements
  | object members => Entries.Distinct members ∧ WellFormedMembers members

/-- `WellFormed` for all elements of an array. -/
def WellFormedElements : List Json → Prop
  | [] => True
  | element :: rest => element.WellFormed ∧ WellFormedElements rest

/-- `WellFormed` for the contents of members. -/
def WellFormedMembers : List (String × Json) → Prop
  | [] => True
  | (_, content) :: rest => content.WellFormed ∧ WellFormedMembers rest

end

theorem keys_resolveMembers (members : List (String × Json)) :
    Entries.keys (resolveMembers members) = Entries.keys members := by
  induction members with
  | nil => rfl
  | cons member rest ih => simp [resolveMembers, ih]

theorem wellFormedMembers_insert (members : List (String × Json)) (key : String) (content : Json)
    (hm : WellFormedMembers members) (hc : content.WellFormed) :
    WellFormedMembers (Entries.insert members key content) := by
  induction members with
  | nil => exact ⟨hc, trivial⟩
  | cons member rest ih =>
    simp only [Entries.insert]
    split
    · exact ⟨hc, hm.2⟩
    · exact ⟨hm.1, ih hm.2⟩

theorem wellFormedMembers_ofList (members : List (String × Json))
    (h : WellFormedMembers members) : WellFormedMembers (Entries.ofList members) := by
  have fold : ∀ done : List (String × Json), WellFormedMembers done → WellFormedMembers
      (members.foldl (fun entries pair => Entries.insert entries pair.1 pair.2) done) := by
    induction members with
    | nil => exact fun done hd => hd
    | cons member rest ih =>
      exact fun done hd => ih h.2 _ (wellFormedMembers_insert done _ _ hd h.1)
  exact fold [] trivial

mutual

/-- **A resolved tree is well formed.** -/
theorem wellFormed_resolve : ∀ j : Json, j.resolve.WellFormed
  | null | bool _ | number _ | string _ => trivial
  | array elements => wellFormed_resolveElements elements
  | object members =>
    ⟨Entries.distinct_ofList _, wellFormedMembers_ofList _ (wellFormed_resolveMembers members)⟩

theorem wellFormed_resolveElements : ∀ elements, WellFormedElements (resolveElements elements)
  | [] => trivial
  | element :: rest => ⟨wellFormed_resolve element, wellFormed_resolveElements rest⟩

theorem wellFormed_resolveMembers : ∀ members, WellFormedMembers (resolveMembers members)
  | [] => trivial
  | (_, content) :: rest => ⟨wellFormed_resolve content, wellFormed_resolveMembers rest⟩

end

mutual

/-- **A well-formed tree is already resolved.** -/
theorem resolve_of_wellFormed : ∀ j : Json, j.WellFormed → j.resolve = j
  | null, _ | bool _, _ | number _, _ | string _, _ => rfl
  | array elements, h => congrArg array (resolveElements_of_wellFormed elements h)
  | object members, h => by
    rw [resolve, resolveMembers_of_wellFormed members h.2, Entries.ofList_of_distinct _ h.1]

theorem resolveElements_of_wellFormed :
    ∀ elements, WellFormedElements elements → resolveElements elements = elements
  | [], _ => rfl
  | element :: rest, h => by
    rw [resolveElements, resolve_of_wellFormed element h.1, resolveElements_of_wellFormed rest h.2]

theorem resolveMembers_of_wellFormed :
    ∀ members, WellFormedMembers members → resolveMembers members = members
  | [], _ => rfl
  | (_, content) :: rest, h => by
    rw [resolveMembers, resolve_of_wellFormed content h.1, resolveMembers_of_wellFormed rest h.2]

end

end Json

end Conformance
