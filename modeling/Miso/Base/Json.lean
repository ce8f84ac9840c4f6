import Mathlib.Data.List.Basic
import Miso.Base.CString

set_option autoImplicit false

namespace Miso.Base

-- A document as written: repeated names and the order of the members stay.
inductive Json where
  | primitive (text : List Byte)
  | string (raw : List Byte)
  | array (elements : List Json)
  | object (members : List (List Byte × Json))

inductive JsonType where
  | undefined | object | array | string | primitive
deriving DecidableEq

mutual

def Json.size : Json → Nat
  | .primitive _ => 1
  | .string _ => 1
  | .array elements => elementsSize elements + 1
  | .object members => membersSize members + 1
termination_by structural json => json

def elementsSize : List Json → Nat
  | [] => 0
  | value :: rest => value.size + elementsSize rest
termination_by structural elements => elements

def membersSize : List (List Byte × Json) → Nat
  | [] => 0
  | (_, value) :: rest => value.size + 1 + membersSize rest
termination_by structural members => members

end

structure Item where
  type : JsonType
  parent : Int
  text : List Byte
deriving DecidableEq

mutual

-- The tokens of a document in preorder with the index of their parent: a name
-- belongs to its object, a value to its name, an element to its array.
def Json.flatten (index : Nat) (parent : Int) : Json → List Item
  | .primitive text => [⟨.primitive, parent, text⟩]
  | .string raw => [⟨.string, parent, raw⟩]
  | .array elements => ⟨.array, parent, []⟩ :: flattenElements (index + 1) index elements
  | .object members => ⟨.object, parent, []⟩ :: flattenMembers (index + 1) index members
termination_by structural json => json

def flattenElements (index : Nat) (parent : Int) : List Json → List Item
  | [] => []
  | value :: rest => value.flatten index parent ++ flattenElements (index + value.size) parent rest
termination_by structural elements => elements

def flattenMembers (index : Nat) (parent : Int) : List (List Byte × Json) → List Item
  | [] => []
  | (name, value) :: rest => ⟨.string, parent, name⟩ :: (value.flatten (index + 1) index ++
      flattenMembers (index + (value.size + 1)) parent rest)
termination_by structural members => members

end

mutual

theorem flatten_length (index : Nat) (parent : Int) : ∀ json : Json, (json.flatten index parent).length = json.size
  | .primitive _ => rfl
  | .string _ => rfl
  | .array elements => by simp [Json.flatten, Json.size, flatten_elements_length (index + 1) index elements]
  | .object members => by simp [Json.flatten, Json.size, flatten_members_length (index + 1) index members]

theorem flatten_elements_length (index : Nat) (parent : Int) :
    ∀ elements : List Json, (flattenElements index parent elements).length = elementsSize elements
  | [] => rfl
  | value :: rest => by
      simp [flattenElements, elementsSize, flatten_length index parent value,
        flatten_elements_length (index + value.size) parent rest]

theorem flatten_members_length (index : Nat) (parent : Int) :
    ∀ members : List (List Byte × Json), (flattenMembers index parent members).length = membersSize members
  | [] => rfl
  | (name, value) :: rest => by
      simp [flattenMembers, membersSize, flatten_length (index + 1) index value,
        flatten_members_length (index + (value.size + 1)) parent rest]
      omega

end

mutual

theorem flatten_parents (index : Nat) (parent : Int) :
    ∀ json : Json, ∀ item ∈ json.flatten index parent, item.parent = parent ∨ (index : Int) ≤ item.parent
  | .primitive _ => by simp [Json.flatten]
  | .string _ => by simp [Json.flatten]
  | .array elements => by
      intro item member
      simp only [Json.flatten, List.mem_cons] at member
      rcases member with rfl | inside
      · exact .inl rfl
      · rcases flatten_elements_parents (index + 1) index elements item inside with same | later <;> omega
  | .object members => by
      intro item member
      simp only [Json.flatten, List.mem_cons] at member
      rcases member with rfl | inside
      · exact .inl rfl
      · rcases flatten_members_parents (index + 1) index members item inside with same | later <;> omega

theorem flatten_elements_parents (index : Nat) (parent : Int) :
    ∀ elements : List Json, ∀ item ∈ flattenElements index parent elements,
      item.parent = parent ∨ (index : Int) ≤ item.parent
  | [] => by simp [flattenElements]
  | value :: rest => by
      intro item member
      simp only [flattenElements, List.mem_append] at member
      rcases member with first | later
      · exact flatten_parents index parent value item first
      · rcases flatten_elements_parents (index + value.size) parent rest item later with same | after <;> omega

theorem flatten_members_parents (index : Nat) (parent : Int) :
    ∀ members : List (List Byte × Json), ∀ item ∈ flattenMembers index parent members,
      item.parent = parent ∨ (index : Int) ≤ item.parent
  | [] => by simp [flattenMembers]
  | (name, value) :: rest => by
      intro item member
      simp only [flattenMembers, List.mem_cons, List.mem_append] at member
      rcases member with rfl | first | later
      · exact .inl rfl
      · rcases flatten_parents (index + 1) index value item first with same | after <;> omega
      · rcases flatten_members_parents (index + (value.size + 1)) parent rest item later with same | after <;> omega

end

def Json.members : Json → List (List Byte × Json)
  | .object members => members
  | _ => []

def Json.elements : Json → List Json
  | .array elements => elements
  | _ => []

def Json.text : Json → List (List Byte)
  | .string raw => [raw]
  | _ => []

-- The values at a path of member names, in document order. A step of the path
-- lists the names it takes.
def nodesAt : List (List (List Byte)) → Json → List Json
  | [], json => [json]
  | names :: path, json =>
      json.members.flatMap fun (name, value) => if name ∈ names then nodesAt path value else []

def textsAt (path : List (List (List Byte))) (json : Json) : List (List Byte) := (nodesAt path json).flatMap Json.text

end Miso.Base
