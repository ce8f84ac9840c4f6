import Mathlib.Data.List.Forall2
import Miso.Config

set_option autoImplicit false

namespace Miso.Config

open Base (Byte Buffer Item Json JsonType ascii cText fit memset padded sameStart strncpy)

def quote : Byte := 34

-- What the parser documents about a token: its type and parent, and for a
-- string where its text stands: before the closing quote.
structure Spells (token : Token) (item : Item) : Prop where
  type : token.type = item.type
  parent : token.parent = item.parent
  text : item.type = .string →
    0 ∉ item.text ∧ token.src_len = item.text.length ∧ item.text ++ [quote] <+: token.src

instance : DecidableRel Spells := fun token item =>
  decidable_of_iff
    (token.type = item.type ∧ token.parent = item.parent ∧ (item.type = .string →
      0 ∉ item.text ∧ token.src_len = item.text.length ∧ item.text ++ [quote] <+: token.src))
    ⟨fun ⟨type, parent, text⟩ => ⟨type, parent, text⟩, fun spells => ⟨spells.type, spells.parent, spells.text⟩⟩

theorem spelled_src (token : Token) (item : Item) (spells : Spells token item) (string : item.type = .string) :
    ∃ rest, token.src = item.text ++ quote :: rest ∧ token.src_len = item.text.length := by
  obtain ⟨_, length, rest, src⟩ := spells.text string
  exact ⟨rest, by simpa using src.symm, length⟩

-- The token array of a document: preorder, with parent links.
def Tokenized (text : List Byte) (tokens : List JsmnTok) (document : Json) : Prop :=
  List.Forall₂ Spells (tokens.map (·.read text)) (document.flatten 0 (-1))

instance (text : List Byte) (tokens : List JsmnTok) (document : Json) : Decidable (Tokenized text tokens document) :=
  inferInstanceAs (Decidable (List.Forall₂ _ _ _))

def ofItem (item : Item) : Token := ⟨item.type, item.parent, item.text, item.text.length⟩

-- A string token is its item's with the closing quote and the rest of the
-- document behind the text; of any other token the text is free.
theorem spells_cases (token : Token) (item : Item) (spells : Spells token item) :
    (item.type = .string ∧ ∃ rest, token = { ofItem item with src := item.text ++ quote :: rest }) ∨
      (item.type ≠ .string ∧ ∃ src len, token = { ofItem item with src := src, src_len := len }) := by
  have spelling := spelled_src token item spells
  obtain ⟨type, parent, src, src_len⟩ := token
  obtain rfl : type = item.type := spells.type
  obtain rfl : parent = item.parent := spells.parent
  by_cases string : item.type = .string
  · obtain ⟨rest, rfl, rfl⟩ := spelling string
    exact .inl ⟨string, rest, rfl⟩
  · exact .inr ⟨string, src, src_len, rfl⟩

def itemLoop (i : Nat) (items : List Item) (loop : Loop) : Option Loop := tokenLoop i (items.map ofItem) loop

theorem prefix_before_quote (literal text rest : List Byte) (plain : quote ∉ literal) :
    literal.isPrefixOf (text ++ quote :: rest) = literal.isPrefixOf text := by
  induction literal generalizing text with
  | nil => rfl
  | cons byte literal ih =>
      obtain ⟨other, plainer⟩ := not_or.mp (List.mem_cons.not.mp plain)
      cases text with
      | nil => simp [List.isPrefixOf, Ne.symm other]
      | cons head text => simp [List.isPrefixOf, ih text plainer]

theorem same_start_quoted (text rest : List Byte) (literal : String) (plain : quote ∉ ascii literal) :
    sameStart (text ++ quote :: rest) literal = sameStart text literal := prefix_before_quote _ text rest plain

theorem root_member_quoted (text rest : List Byte) : rootMember (text ++ quote :: rest) = rootMember text := by
  simp (disch := decide) only [rootMember, same_start_quoted]

theorem member_action_quoted (slot : Slot) (text rest : List Byte) :
    memberAction slot (text ++ quote :: rest) = memberAction slot text := by
  cases slot <;> simp (disch := decide) only [memberAction, wifiMember, lwm2mMember, mqttMember, lwm2mPskMember,
    mqttPskMember, pskMember, httpMember, configMember, same_start_quoted]

theorem strncpy_quoted {capacity : Nat} (dest : Buffer capacity) (text rest : List Byte) (count : Nat)
    (short : count ≤ text.length) : strncpy dest (text ++ quote :: rest) count = strncpy dest text count := by
  simp only [strncpy, cText, List.take_append_of_le_length short]

theorem copy_string_quoted {capacity : Nat} (dest : Buffer capacity) (dest_len : Nat) (text rest : List Byte) :
    copyString dest dest_len (text ++ quote :: rest) text.length = copyString dest dest_len text text.length := by
  simp only [copyString, strncpy_quoted _ text rest _ (Nat.min_le_left _ _)]

theorem apply_member_spells (i : Nat) (action : Action) (loop : Loop) (tokens : List Token) (items : List Item)
    (spelled : List.Forall₂ Spells tokens items) :
    applyMember i tokens.head? action loop = applyMember i (items.map ofItem).head? action loop := by
  cases spelled with
  | nil => rfl
  | @cons token item _ _ spells _ =>
      cases action with
      | remember slot => rfl
      | ignore => rfl
      | copyTo setting dest_len =>
          by_cases string : item.type = .string
          · obtain ⟨rest, src, length⟩ := spelled_src token item spells string
            simp [applyMember, ofItem, spells.type, string, length, src, copy_string_quoted]
          · simp [applyMember, ofItem, spells.type, string]

theorem branch_of_string (keys : Keys) (token : Token) (slot : Slot) (taken : keys.branch token = some slot)
    (other : token.type ≠ .string) : slot = .ntpUrl := by
  simp only [Keys.branch, other, and_false, if_false] at taken
  split at taken <;> simp_all

theorem iteration_spells (i : Nat) (token : Token) (item : Item) (tokens : List Token) (items : List Item) (loop : Loop)
    (spells : Spells token item) (spelled : List.Forall₂ Spells tokens items) :
    iteration i token tokens.head? loop = iteration i (ofItem item) (items.map ofItem).head? loop := by
  obtain ⟨type, parent, text⟩ := item
  rcases spells_cases token _ spells with ⟨_, rest, rfl⟩ | ⟨string, src, len, rfl⟩
  · have same : loop.keys.branch ⟨type, parent, text ++ quote :: rest, text.length⟩ =
        loop.keys.branch ⟨type, parent, text, text.length⟩ := rfl
    have named : sameStart (text ++ quote :: rest) "url" = sameStart text "url" := same_start_quoted _ _ _ (by decide)
    have copied (dest : Buffer (Setting.sizeof .ntpUrl)) :
        strncpy dest (text ++ quote :: rest) text.length = strncpy dest text text.length :=
      strncpy_quoted _ _ _ _ (Nat.le_refl _)
    simp only [iteration, ofItem, same, root_member_quoted, member_action_quoted, named, copied,
      apply_member_spells i _ loop tokens items spelled]
    rfl
  · have same : loop.keys.branch ⟨type, parent, src, len⟩ = loop.keys.branch ⟨type, parent, text, text.length⟩ := rfl
    have other : type ≠ .string := string
    simp only [iteration, same, ofItem, other, and_false, if_false]
    cases taken : loop.keys.branch ⟨type, parent, text, text.length⟩ with
    | none => rfl
    | some slot =>
        obtain rfl := branch_of_string loop.keys _ slot taken other
        rfl

theorem token_loop_spells (i : Nat) (tokens : List Token) (items : List Item) (loop : Loop)
    (spelled : List.Forall₂ Spells tokens items) : tokenLoop i tokens loop = itemLoop i items loop := by
  induction spelled generalizing i loop with
  | nil => rfl
  | cons spells rest ih =>
      simp only [tokenLoop, itemLoop, List.map_cons, iteration_spells i _ _ _ _ loop spells rest]
      congr 1
      funext next
      exact ih (i + 1) next

end Miso.Config
