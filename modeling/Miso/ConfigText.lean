import Miso.ConfigTokens

set_option autoImplicit false

namespace Miso.Config

open Base (Byte Item Json ascii flattenElements flattenMembers)

def comma (last : Bool) : List Byte := if last then [] else ascii ","

mutual

-- A file that holds a document, without any white space.
def render : Json → List Byte
  | .primitive text => text
  | .string raw => quote :: (raw ++ [quote])
  | .array elements => ascii "[" ++ (renderElements elements ++ ascii "]")
  | .object members => ascii "\x7b" ++ (renderMembers members ++ ascii "\x7d")
termination_by structural json => json

def renderElements : List Json → List Byte
  | [] => []
  | value :: rest => render value ++ (comma rest.isEmpty ++ renderElements rest)
termination_by structural elements => elements

def renderMembers : List (List Byte × Json) → List Byte
  | [] => []
  | (name, value) :: rest =>
      [quote] ++ ((name ++ [quote]) ++ (ascii ":" ++ (render value ++ (comma rest.isEmpty ++ renderMembers rest))))
termination_by structural members => members

end

mutual

-- The tokens of that file: a string token stands between its quotes.
def tokensAt (start index : Nat) (parent : Int) : Json → List JsmnTok
  | .primitive text => [⟨.primitive, start, start + text.length, parent⟩]
  | .string raw => [⟨.string, start + 1, start + 1 + raw.length, parent⟩]
  | .array elements =>
      ⟨.array, start, start + (render (.array elements)).length, parent⟩ ::
        elementTokens (start + 1) (index + 1) index elements
  | .object members =>
      ⟨.object, start, start + (render (.object members)).length, parent⟩ ::
        memberTokens (start + 1) (index + 1) index members
termination_by structural json => json

def elementTokens (start index : Nat) (parent : Int) : List Json → List JsmnTok
  | [] => []
  | value :: rest =>
      tokensAt start index parent value ++
        elementTokens (start + (render value).length + (comma rest.isEmpty).length) (index + value.size) parent rest
termination_by structural elements => elements

def memberTokens (start index : Nat) (parent : Int) : List (List Byte × Json) → List JsmnTok
  | [] => []
  | (name, value) :: rest =>
      ⟨.string, start + 1, start + 1 + name.length, parent⟩ ::
        (tokensAt (start + 1 + (name ++ [quote]).length + 1) (index + 1) index value ++
          memberTokens (start + 1 + (name ++ [quote]).length + 1 + (render value).length + (comma rest.isEmpty).length)
            (index + (value.size + 1)) parent rest)
termination_by structural members => members

end

theorem prefix_split (text first second : List Byte) (start : Nat) (stands : first ++ second <+: text.drop start) :
    first <+: text.drop start ∧ second <+: text.drop (start + first.length) := by
  obtain ⟨rest, whole⟩ := stands
  refine ⟨⟨second ++ rest, by rw [← whole, List.append_assoc]⟩, rest, ?_⟩
  rw [← List.drop_drop, ← whole]
  simp

def Clean (items : List Item) : Prop := ∀ item ∈ items, item.type = .string → 0 ∉ item.text

theorem clean_append (first second : List Item) : Clean (first ++ second) ↔ Clean first ∧ Clean second :=
  List.forall_mem_append

theorem string_spells (text raw : List Byte) (start : Nat) (parent : Int) (clean : 0 ∉ raw)
    (stands : raw ++ [quote] <+: text.drop start) :
    Spells (JsmnTok.read text ⟨.string, start, start + raw.length, parent⟩) ⟨.string, parent, raw⟩ :=
  ⟨rfl, rfl, fun _ => ⟨clean, Nat.add_sub_cancel_left _ _, stands⟩⟩

mutual

theorem tokens_spell (text : List Byte) (start index : Nat) (parent : Int) : ∀ json : Json,
    render json <+: text.drop start → Clean (json.flatten index parent) →
      List.Forall₂ Spells ((tokensAt start index parent json).map (·.read text)) (json.flatten index parent)
  | .primitive _, _, _ => .cons ⟨rfl, rfl, fun string => by cases string⟩ .nil
  | .string raw, stands, clean => by
      have inside := (prefix_split text [quote] _ start stands).2
      exact .cons (string_spells text raw (start + 1) parent (clean _ (List.mem_singleton_self _) rfl) inside) .nil
  | .array elements, stands, clean => by
      have inside := (prefix_split text _ _ start stands).2
      have innerClean : Clean (flattenElements (index + 1) index elements) :=
        fun item member => clean item (List.mem_cons_of_mem _ member)
      exact .cons ⟨rfl, rfl, fun string => by cases string⟩
        (elements_spell text (start + 1) (index + 1) index elements (prefix_split text _ _ _ inside).1 innerClean)
  | .object members, stands, clean => by
      have inside := (prefix_split text _ _ start stands).2
      have innerClean : Clean (flattenMembers (index + 1) index members) :=
        fun item member => clean item (List.mem_cons_of_mem _ member)
      exact .cons ⟨rfl, rfl, fun string => by cases string⟩
        (members_spell text (start + 1) (index + 1) index members (prefix_split text _ _ _ inside).1 innerClean)

theorem elements_spell (text : List Byte) (start index : Nat) (parent : Int) : ∀ elements : List Json,
    renderElements elements <+: text.drop start → Clean (flattenElements index parent elements) →
      List.Forall₂ Spells ((elementTokens start index parent elements).map (·.read text))
        (flattenElements index parent elements)
  | [], _, _ => .nil
  | value :: rest, stands, clean => by
      obtain ⟨here, later⟩ := prefix_split text _ _ start stands
      obtain ⟨first, second⟩ := (clean_append _ _).mp clean
      simp only [elementTokens, flattenElements, List.map_append]
      exact List.rel_append (tokens_spell text start index parent value here first)
        (elements_spell text _ (index + value.size) parent rest (prefix_split text _ _ _ later).2 second)

theorem members_spell (text : List Byte) (start index : Nat) (parent : Int) : ∀ members : List (List Byte × Json),
    renderMembers members <+: text.drop start → Clean (flattenMembers index parent members) →
      List.Forall₂ Spells ((memberTokens start index parent members).map (·.read text))
        (flattenMembers index parent members)
  | [], _, _ => .nil
  | (name, value) :: rest, stands, clean => by
      obtain ⟨named, colon⟩ := prefix_split text _ _ (start + 1) (prefix_split text _ _ start stands).2
      obtain ⟨here, later⟩ := prefix_split text _ _ _ (prefix_split text _ _ _ colon).2
      have nameClean : 0 ∉ name := clean ⟨.string, parent, name⟩ List.mem_cons_self rfl
      obtain ⟨first, second⟩ := (clean_append _ _).mp fun item member => clean item (List.mem_cons_of_mem _ member)
      simp only [memberTokens, flattenMembers, List.map_cons, List.map_append]
      refine .cons (string_spells text name (start + 1) parent nameClean named) ?_
      exact List.rel_append (tokens_spell text _ (index + 1) index value here first)
        (members_spell text _ (index + (value.size + 1)) parent rest (prefix_split text _ _ _ later).2 second)

end

theorem rendered_tokenized (root : Json) (clean : Clean (root.flatten 0 (-1))) :
    Tokenized (render root) (tokensAt 0 0 (-1) root) root :=
  tokens_spell (render root) 0 0 (-1) root List.prefix_rfl clean

end Miso.Config
