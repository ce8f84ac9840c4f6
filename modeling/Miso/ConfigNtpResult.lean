import Mathlib.Data.List.Induction
import Miso.ConfigNtp

set_option autoImplicit false

namespace Miso.Config

open Base (Byte Buffer Json ascii cText c_text_of_clean flatten_length nodesAt padded sameStart strncpy)

section Overlay

-- Texts copied one over the other: each keeps what stood behind its length.
def overlay (old : List Byte) (copies : List (List Byte)) : List Byte :=
  copies.foldl (fun bytes copy => copy ++ bytes.drop copy.length) old

def lastReaching (copies : List (List Byte)) (position : Nat) : Option (List Byte) :=
  (copies.filter (position < ·.length)).getLast?

theorem overlay_append (old : List Byte) (copies : List (List Byte)) (copy : List Byte) :
    overlay old (copies ++ [copy]) = copy ++ (overlay old copies).drop copy.length := by simp [overlay]

theorem last_reaching_append (copies : List (List Byte)) (copy : List Byte) (position : Nat) :
    lastReaching (copies ++ [copy]) position = if position < copy.length then some copy else lastReaching copies position := by
  by_cases reaches : position < copy.length <;> simp [lastReaching, reaches]

theorem overlay_get (old : List Byte) (copies : List (List Byte)) (position : Nat) :
    (overlay old copies)[position]? = match lastReaching copies position with
      | some copy => copy[position]?
      | none => old[position]? := by
  induction copies using List.reverseRecOn with
  | nil => rfl
  | append_singleton copies copy ih =>
      rw [overlay_append, last_reaching_append, List.getElem?_append]
      by_cases reaches : position < copy.length
      · simp [reaches]
      · have later : copy.length + (position - copy.length) = position := by omega
        simp only [reaches, if_false, List.getElem?_drop, later, ih]

theorem last_reaching_some (copies : List (List Byte)) (copy : List Byte) (position : Nat) (member : copy ∈ copies)
    (reaches : position < copy.length) :
    ∃ last ∈ copies, lastReaching copies position = some last ∧ position < last.length := by
  have inside : copy ∈ copies.filter (position < ·.length) := List.mem_filter.mpr ⟨member, by simpa using reaches⟩
  obtain ⟨last, found⟩ := Option.isSome_iff_exists.mp (List.getLast?_isSome.mpr (List.ne_nil_of_mem inside))
  obtain ⟨listed, longer⟩ := List.mem_filter.mp (List.mem_of_getLast? found)
  exact ⟨last, listed, found, by simpa using longer⟩

theorem last_reaching_none (copies : List (List Byte)) (position : Nat) (short : ∀ copy ∈ copies, copy.length ≤ position) :
    lastReaching copies position = none := by
  have nothing : copies.filter (position < ·.length) = [] := by
    apply List.filter_eq_nil_iff.mpr
    intro copy member
    simpa using short copy member
  simp [lastReaching, nothing]

theorem padded_get (text : List Byte) (count position : Nat) :
    (padded text count)[position]? =
      if position < text.length then text[position]? else if position < count then some 0 else none := by
  rw [padded, List.getElem?_append]
  split
  · rfl
  · rw [List.getElem?_replicate]
    split <;> split <;> first | rfl | omega

-- What must hold of the old bytes and the copied texts for the last one to be
-- left alone: no text is longer than it and nothing stands behind its length.
structure CopiesFit (old : List Byte) (copies : List (List Byte)) (last : List Byte) : Prop where
  short : last.length < Setting.ntpUrl.sizeof
  within : ∀ copy ∈ copies, copy.length ≤ last.length
  clear : ∀ byte ∈ old.drop last.length, byte = 0
  agrees : ∀ position < last.length, ∀ copy ∈ lastReaching copies position, copy[position]? = last[position]?

instance (old : List Byte) (copies : List (List Byte)) (last : List Byte) : Decidable (CopiesFit old copies last) :=
  letI : Decidable (∀ byte ∈ old.drop last.length, byte = 0) := List.decidableBAll (· = 0) (old.drop last.length)
  decidable_of_iff
    (last.length < Setting.ntpUrl.sizeof ∧ (∀ copy ∈ copies, copy.length ≤ last.length) ∧
      (∀ byte ∈ old.drop last.length, byte = 0) ∧
      ∀ position < last.length, ∀ copy ∈ lastReaching copies position, copy[position]? = last[position]?)
    ⟨fun ⟨short, within, clear, agrees⟩ => ⟨short, within, clear, agrees⟩,
      fun fit => ⟨fit.short, fit.within, fit.clear, fit.agrees⟩⟩

def cutText (last : List Byte) : List Byte :=
  padded (last.take (Setting.ntpUrl.sizeof - 1)) Setting.ntpUrl.sizeof

section Fit

variable (old : List Byte) (copies : List (List Byte)) (last : List Byte) (clean : ∀ copy ∈ copies, 0 ∉ copy)
  (left : overlay old copies = cutText last)

include clean left

-- Where the cut text has a NUL no copied text can reach.
theorem nul_unreached (position : Nat) (inside : position < Setting.ntpUrl.sizeof)
    (behind : (last.take (Setting.ntpUrl.sizeof - 1)).length ≤ position) : ∀ copy ∈ copies, copy.length ≤ position := by
  intro copy member
  by_contra longer
  obtain ⟨other, listed, found, reaches⟩ := last_reaching_some copies copy position member (by omega)
  have byte := overlay_get old copies position
  rw [left, cutText, padded_get, if_neg (by omega), if_pos inside, found] at byte
  simp only [List.getElem?_eq_getElem reaches, Option.some.injEq] at byte
  exact clean other listed (byte ▸ List.getElem_mem reaches)

theorem fit_of_overlay (sized : old.length = Setting.ntpUrl.sizeof) (member : last = [] ∨ last ∈ copies) :
    CopiesFit old copies last := by
  have positive : 0 < Setting.ntpUrl.sizeof := by decide
  have short : last.length < Setting.ntpUrl.sizeof := by
    rcases member with rfl | member
    · exact positive
    · have unreached := nul_unreached old copies last clean left (Setting.ntpUrl.sizeof - 1) (by omega)
        (List.length_take_le _ _) last member
      omega
  have whole : last.take (Setting.ntpUrl.sizeof - 1) = last := List.take_of_length_le (by omega)
  have within := nul_unreached old copies last clean left last.length short (by rw [whole])
  refine ⟨short, within, fun byte listed => ?_, fun position inside copy found => ?_⟩
  · obtain ⟨index, bound, rfl⟩ := List.getElem_of_mem listed
    have held := overlay_get old copies (last.length + index)
    rw [List.length_drop] at bound
    rw [left, cutText, whole, padded_get, if_neg (by omega), if_pos (by omega),
      last_reaching_none copies _ fun copy listed => Nat.le_trans (within copy listed) (Nat.le_add_right _ _)] at held
    simp only [List.getElem?_eq_getElem (show last.length + index < old.length by omega), Option.some.injEq] at held
    rw [List.getElem_drop, ← held]
  · have held := overlay_get old copies position
    rw [left, cutText, whole, padded_get, if_pos inside, Option.mem_def.mp found] at held
    exact held.symm

end Fit

theorem overlay_of_fit (old : List Byte) (copies : List (List Byte)) (last : List Byte)
    (sized : old.length = Setting.ntpUrl.sizeof) (member : last = [] ∨ last ∈ copies) (fit : CopiesFit old copies last) :
    overlay old copies = cutText last := by
  obtain ⟨short, within, clear, agrees⟩ := fit
  have whole : last.take (Setting.ntpUrl.sizeof - 1) = last := List.take_of_length_le (by omega)
  apply List.ext_getElem?
  intro position
  rw [overlay_get, cutText, whole, padded_get]
  by_cases inside : position < last.length
  · rw [if_pos inside]
    rcases member with rfl | member
    · cases inside
    · obtain ⟨copy, _, found, _⟩ := last_reaching_some copies last position member inside
      rw [found]
      exact agrees position inside copy found
  · rw [if_neg inside, last_reaching_none copies position fun copy listed => Nat.le_trans (within copy listed) (by omega)]
    by_cases bound : position < Setting.ntpUrl.sizeof
    · have there : position < old.length := by omega
      rw [if_pos bound]
      simp only [List.getElem?_eq_getElem there, Option.some.injEq]
      apply clear
      rw [List.mem_drop_iff_getElem]
      exact ⟨position - last.length, by omega, by congr 1; omega⟩
    · rw [if_neg bound]
      simp only [List.getElem?_eq_none (show old.length ≤ position by omega)]

end Overlay

theorem copy_over_clean (buffer : Buffer Setting.ntpUrl.sizeof) (token : Token) (sized : token.src_len = token.src.length)
    (clean : 0 ∉ token.src) (after : Buffer Setting.ntpUrl.sizeof) (copied : copyOver buffer token = some after) :
    after.bytes = token.src ++ buffer.bytes.drop token.src.length := by
  have text : padded (cText token.src token.src.length) token.src.length = token.src := by
    rw [c_text_of_clean _ _ (by rwa [List.take_length]), List.take_length]
    simp [padded]
  rw [copyOver, sized, strncpy, text, Buffer.store] at copied
  split at copied
  · obtain rfl := Option.some.inj copied
    rfl
  · cases copied

theorem copies_overlay (tokens : List Token) (buffer after : Buffer Setting.ntpUrl.sizeof)
    (plain : ∀ token ∈ tokens, token.src_len = token.src.length ∧ 0 ∉ token.src)
    (copied : tokens.foldlM copyOver buffer = some after) : after.bytes = overlay buffer.bytes (tokens.map Token.src) := by
  induction tokens generalizing buffer with
  | nil =>
      obtain rfl := Option.some.inj copied
      rfl
  | cons token rest ih =>
      obtain ⟨middle, first, later⟩ := Option.bind_eq_some_iff.mp copied
      obtain ⟨sized, clean⟩ := plain token List.mem_cons_self
      rw [ih middle (fun other member => plain other (List.mem_cons_of_mem _ member)) later,
        copy_over_clean buffer token sized clean middle first]
      rfl

theorem ntp_copies_sublist (i : Nat) (keys : Keys) (tokens : List Token) : ∀ token ∈ ntpCopies i keys tokens, token ∈ tokens := by
  induction tokens generalizing i keys with
  | nil => exact fun token member => member
  | cons token rest ih =>
      intro copied member
      rw [ntpCopies, List.mem_append] at member
      rcases member with here | later
      · split at here
        · simp_all
        · cases here
      · exact List.mem_cons_of_mem _ (ih (i + 1) _ copied later)

theorem ntp_copies_string (i : Nat) (keys : Keys) (tokens : List Token) :
    ∀ token ∈ ntpCopies i keys tokens, token.type = .string := by
  induction tokens generalizing i keys with
  | nil => exact fun token member => absurd member List.not_mem_nil
  | cons token rest ih =>
      intro copied member
      rw [ntpCopies, List.mem_append] at member
      rcases member with here | later
      · split at here
        case isTrue copies =>
          obtain rfl := List.mem_singleton.mp here
          simp only [Keys.copies] at copies
          split at copies
          · cases copies
          · exact (branch_some keys _ _ (of_decide_eq_true copies)).type
        case isFalse => cases here
      · exact ih (i + 1) _ copied later

-- The file gives ntp.url, and always as an array of strings.
def ListsAddresses (root : Json) : Prop :=
  nodesAt (bytePath Setting.ntpUrl.path) root ≠ [] ∧
    ∀ node ∈ nodesAt (bytePath Setting.ntpUrl.path) root, ∃ raws : List (List Byte), node = .array (raws.map .string)

theorem entries_copied (root : Json) (raw : List Byte) (member : raw ∈ ntpEntries root) : raw ∈ documentCopies root := by
  have path : bytePath Setting.ntpUrl.path = [[ascii "ntp"], [ascii "url"]] := rfl
  simp only [ntpEntries, path, nodesAt, List.mem_flatMap, List.mem_singleton] at member
  obtain ⟨node, ⟨⟨name, value⟩, first, inside⟩, element, listed, text⟩ := member
  split at inside
  case isFalse => cases inside
  case isTrue ntp =>
    obtain ⟨⟨field, other⟩, second, last⟩ := List.mem_flatMap.mp inside
    simp only at last
    split at last
    case isFalse => cases last
    case isTrue url =>
      obtain rfl := List.mem_singleton.mp last
      subst ntp url
      have section_name : rootMember (ascii "ntp") = some .ntp := by decide
      have field_name : sameStart (ascii "url") "url" = true := by decide
      refine List.mem_flatMap.mpr ⟨(ascii "ntp", value), first, ?_⟩
      simp only [memberCopies, section_name, if_true]
      refine List.mem_flatMap.mpr ⟨(ascii "url", node), second, ?_⟩
      simp only [fieldCopies, field_name, if_true]
      exact List.mem_flatMap.mpr ⟨element, listed, text⟩

def lastEntry (root : Json) : List Byte := (ntpEntries root).getLast?.getD []

theorem last_entry_copied (root : Json) : lastEntry root = [] ∨ lastEntry root ∈ documentCopies root := by
  cases last : (ntpEntries root).getLast? with
  | none => exact .inl (by rw [lastEntry, last]; rfl)
  | some raw =>
      refine .inr ?_
      rw [lastEntry, last]
      exact entries_copied root raw (List.mem_of_getLast? last)

theorem lists_object (root : Json) (lists : ListsAddresses root) : ∃ members, root = .object members := by
  cases root with
  | object members => exact ⟨members, rfl⟩
  | _ => exact absurd rfl lists.1

theorem tokenized_linked (text : List Byte) (tokens : List JsmnTok) (root : Json) (tokenized : Tokenized text tokens root) :
    ∀ token ∈ tokens, -1 ≤ token.parent := by
  intro token member
  obtain ⟨index, bound, rfl⟩ := List.getElem_of_mem member
  have size := tokenized.length_eq
  rw [List.length_map] at size
  have spells := List.Forall₂.get tokenized (by simpa using bound) (by omega)
  simp only [List.get_eq_getElem, List.getElem_map] at spells
  have parents := Base.flatten_parents 0 (-1) root _ (List.getElem_mem (show index < (root.flatten 0 (-1)).length by omega))
  have same : tokens[index].parent = (root.flatten 0 (-1))[index].parent := spells.parent
  omega

-- After the load the buffer holds the last string of the array and nothing else.
def LeavesLast (env : LoadEnv) (store : Store) (root : Json) : Prop :=
  ∃ after calls, misoLoadConfig env store = some (after, calls) ∧ (after .ntpUrl).bytes = cutText (lastEntry root)

theorem load_runs (env : LoadEnv) (tokens : List JsmnTok) (root : Json) (store after : Store) (loads : env.Loads tokens)
    (tokenized : Tokenized env.text tokens root) :
    (∃ calls, misoLoadConfig env store = some (after, calls)) ↔
      ∃ keys, itemLoop 0 (root.flatten 0 (-1)) ⟨.unset, store⟩ = some ⟨keys, after⟩ := by
  have some_tokens : (tokens.length : Int) > 0 := by
    have size := tokenized_length _ _ _ tokenized
    have positive := size_pos root
    omega
  have parses : env.parses = true := by
    simp [LoadEnv.parses, LoadEnv.reads, LoadEnv.readBuffer, loads.fOpen, loads.readBlock, loads.fRead]
  have parsed : parseConfig env store = (itemLoop 0 (root.flatten 0 (-1)) ⟨.unset, store⟩).map Loop.store := by
    rw [← token_loop_spells 0 _ _ _ tokenized]
    simp only [parseConfig, loads.jsmnCount, some_tokens, loads.tokenBlock, loads.jsmnTokens, if_true]
  simp only [misoLoadConfig, parses, if_true, parsed, Option.map_map]
  constructor
  · rintro ⟨calls, loaded⟩
    obtain ⟨loop, ran, same⟩ := Option.map_eq_some_iff.mp loaded
    obtain ⟨rfl, _⟩ := Prod.mk.inj same
    exact ⟨loop.keys, ran⟩
  · rintro ⟨keys, ran⟩
    exact ⟨env.calls, by rw [ran]; rfl⟩

theorem copied_plain (root : Json) (clean : Clean (root.flatten 0 (-1))) :
    ∀ token ∈ ntpCopies 0 .unset ((root.flatten 0 (-1)).map ofItem), token.src_len = token.src.length ∧ 0 ∉ token.src := by
  intro token member
  have string := ntp_copies_string _ _ _ token member
  obtain ⟨item, listed, rfl⟩ := List.mem_map.mp (ntp_copies_sublist _ _ _ token member)
  exact ⟨rfl, clean item listed string⟩

theorem load_leaves_last_address (env : LoadEnv) (tokens : List JsmnTok) (root : Json) (store : Store)
    (loads : env.Loads tokens) (tokenized : Tokenized env.text tokens root) (lists : ListsAddresses root) :
    LeavesLast env store root ↔
      ¬ LooksAhead (tokens.map (·.read env.text)) (tokens.length - 1) ∧
        CopiesFit (store .ntpUrl).bytes (documentCopies root) (lastEntry root) := by
  have plain := copied_plain root (spelled_clean _ _ tokenized)
  have copied : (ntpCopies 0 .unset ((root.flatten 0 (-1)).map ofItem)).map Token.src = documentCopies root := by
    obtain ⟨members, rfl⟩ := lists_object root lists
    exact document_copies members
  have clean : ∀ copy ∈ documentCopies root, 0 ∉ copy := by
    intro copy member
    rw [← copied] at member
    obtain ⟨token, listed, rfl⟩ := List.mem_map.mp member
    exact (plain token listed).2
  have reads : env.tokenReads = tokenReads 0 .unset ((root.flatten 0 (-1)).map ofItem) := by
    rw [loaded_reads env tokens loads, reads_spell 0 .unset _ _ tokenized]
  have size : tokens.length = ((root.flatten 0 (-1)).map ofItem).length := by
    rw [List.length_map, flatten_length, tokenized_length _ _ _ tokenized]
  have last := last_entry_copied root
  have within := token_reads_within env tokens loads (tokenized_linked _ _ _ tokenized)
  rw [reads, size] at within
  rw [size, ← within]
  constructor
  · rintro ⟨after, calls, loaded, left⟩
    obtain ⟨keys, ran⟩ := (load_runs env tokens root store after loads tokenized).mp ⟨calls, loaded⟩
    have written := copies_overlay _ _ _ plain (loop_copies 0 _ _ _ ran)
    rw [copied] at written
    refine ⟨?_, ?_⟩
    · simpa using loop_reads_within 0 _ _ _ ran
    · exact fit_of_overlay _ _ _ clean (written.symm.trans left) (store .ntpUrl).sized last
  · rintro ⟨bounded, fit⟩
    have defined := loop_defined 0 ((root.flatten 0 (-1)).map ofItem) ⟨.unset, store⟩ (by simpa using bounded) (by
      intro token member
      have listed : token.src ∈ documentCopies root := by
        rw [← copied]
        exact List.mem_map_of_mem member
      have short := fit.within token.src listed
      have bound := fit.short
      rw [(plain token member).1]
      omega)
    obtain ⟨⟨keys, after⟩, ran⟩ := Option.isSome_iff_exists.mp defined
    obtain ⟨calls, loaded⟩ := (load_runs env tokens root store after loads tokenized).mpr ⟨keys, ran⟩
    have written := copies_overlay _ _ _ plain (loop_copies 0 _ _ _ ran)
    rw [copied] at written
    exact ⟨after, calls, loaded, written.trans (overlay_of_fit _ _ _ (store .ntpUrl).sized last fit)⟩

theorem home_lists : ListsAddresses homeDocument :=
  ⟨List.cons_ne_nil _ _, fun _ member => ⟨[ascii "pool"], List.mem_singleton.mp member⟩⟩

theorem zero_clear (length : Nat) : ∀ byte ∈ (Store.zero .ntpUrl).bytes.drop length, byte = 0 :=
  fun _ member => List.eq_of_mem_replicate (List.mem_of_mem_drop member)

theorem load_leaves_last_address_home : LeavesLast (.given homeFile homeTokens) .zero homeDocument :=
  (load_leaves_last_address (.given homeFile homeTokens) homeTokens homeDocument .zero (given_loads _ _) (by decide)
    home_lists).mpr ⟨by decide, by decide, by decide, zero_clear _, by decide⟩

def poolsFile : List Byte := ascii "\x7b\"ntp\":\x7b\"url\":[\"pool.org\",\"a.b\"]\x7d\x7d"

def poolsTokens : List JsmnTok := [
  ⟨.object, 0, 34, -1⟩, ⟨.string, 2, 5, 0⟩, ⟨.object, 7, 33, 1⟩, ⟨.string, 9, 12, 2⟩, ⟨.array, 14, 32, 3⟩,
  ⟨.string, 16, 24, 4⟩, ⟨.string, 27, 30, 4⟩]

def poolsDocument : Json := .object [(ascii "ntp", .object [(ascii "url", .array [.string (ascii "pool.org"), .string (ascii "a.b")])])]

-- The shorter entry is copied over the longer one and leaves its end behind.
theorem pools_leave_remains :
    ListsAddresses poolsDocument ∧ (LoadEnv.given poolsFile poolsTokens).Loads poolsTokens ∧
      Tokenized poolsFile poolsTokens poolsDocument ∧
      (misoLoadConfig (.given poolsFile poolsTokens) .zero).map (fun loaded => (loaded.1 .ntpUrl).bytes) =
        some (padded (ascii "a.bl.org") 64) ∧
      ¬ LeavesLast (.given poolsFile poolsTokens) .zero poolsDocument := by
  have kept : (misoLoadConfig (.given poolsFile poolsTokens) .zero).map (fun loaded => (loaded.1 .ntpUrl).bytes) =
      some (padded (ascii "a.bl.org") 64) := by decide
  refine ⟨⟨List.cons_ne_nil _ _, fun _ member => ⟨[ascii "pool.org", ascii "a.b"], List.mem_singleton.mp member⟩⟩,
    given_loads _ _, by decide, kept, ?_⟩
  rintro ⟨after, calls, loaded, left⟩
  rw [loaded] at kept
  have differs : padded (ascii "a.bl.org") 64 ≠ cutText (lastEntry poolsDocument) := by decide
  exact differs ((Option.some.inj kept).symm.trans left)

end Miso.Config
