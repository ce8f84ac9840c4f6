import Miso.ConfigSettings

set_option autoImplicit false

namespace Miso.Config

open Base (Byte Json ascii)

structure LoadEnv.Loads (env : LoadEnv) (tokens : List JsmnTok) : Prop where
  fOpen : env.fOpen = .ok
  fSize : env.fSize = env.text.length
  readBlock : env.readBlock = true
  fRead : env.fRead = .ok
  jsmnCount : env.jsmnCount env.text = tokens.length
  tokenBlock : env.tokenBlock = true
  jsmnTokens : env.jsmnTokens env.text = .ok tokens

theorem tokenized_length (text : List Byte) (tokens : List JsmnTok) (root : Json) (tokenized : Tokenized text tokens root) :
    tokens.length = root.size := by
  simpa [Base.flatten_length] using tokenized.length_eq

theorem load_result (env : LoadEnv) (tokens : List JsmnTok) (root : Json) (store : Store) (loads : env.Loads tokens)
    (tokenized : Tokenized env.text tokens root) (shaped : Shaped root) :
    (misoLoadConfig env store).map Prod.fst = store.writeAll (documentWrites root) := by
  have some_tokens : (tokens.length : Int) > 0 := by
    have size := tokenized_length _ _ _ tokenized
    have positive := size_pos root
    omega
  have parsed : parseConfig env store = store.writeAll (documentWrites root) := by
    simp only [parseConfig, loads.jsmnCount, some_tokens, loads.tokenBlock, loads.jsmnTokens, if_true]
    exact token_loop_writes env.text tokens root store tokenized shaped
  have parses : env.parses = true := by
    simp [LoadEnv.parses, LoadEnv.reads, LoadEnv.readBuffer, loads.fOpen, loads.readBlock, loads.fRead]
  rw [load_store, parses, if_pos rfl, parsed]

-- After the load each buffer holds the last string at its path, or what it
-- held before. Only an NTP entry that does not fit prevents it.
theorem load_holds_settings (env : LoadEnv) (tokens : List JsmnTok) (root : Json) (store : Store) (loads : env.Loads tokens)
    (tokenized : Tokenized env.text tokens root) (recognised : Recognised root) :
    (∃ after calls, misoLoadConfig env store = some (after, calls) ∧
      ∀ setting, setting ≠ .ntpUrl → after setting = settle (store setting) (setting.texts root)) ↔
        ∀ raw ∈ ntpEntries root, raw.length ≤ Setting.ntpUrl.sizeof := by
  have result := load_result env tokens root store loads tokenized (recognised_shaped root recognised)
  have entries := document_entries root recognised
  constructor
  · rintro ⟨after, calls, loaded, _⟩
    have written : store.writeAll (documentWrites root) = some after := by rw [← result, loaded]; rfl
    rw [← entries, ← write_all_defined store, written]
    rfl
  · intro short
    rw [← entries, ← write_all_defined store, ← result, Option.isSome_map] at short
    obtain ⟨⟨after, calls⟩, loaded⟩ := Option.isSome_iff_exists.mp short
    refine ⟨after, calls, loaded, ?_⟩
    intro setting notNtp
    have written : store.writeAll (documentWrites root) = some after := by rw [← result, loaded]; rfl
    rw [write_all_settles store after _ setting notNtp written, document_texts root setting recognised notNtp]

def LoadEnv.given (text : List Byte) (tokens : List JsmnTok) : LoadEnv where
  fOpen := .ok
  fSize := text.length
  readBlock := true
  fRead := .ok
  text := text
  jsmnCount := fun _ => tokens.length
  tokenBlock := true
  jsmnTokens := fun _ => .ok tokens

theorem given_loads (text : List Byte) (tokens : List JsmnTok) : (LoadEnv.given text tokens).Loads tokens :=
  ⟨rfl, rfl, rfl, rfl, rfl, rfl, rfl⟩

def homeFile : List Byte := ascii "\x7b\"wifi\":\x7b\"ssid\":\"home\"\x7d,\"ntp\":\x7b\"url\":[\"pool\"]\x7d\x7d"

def homeTokens : List JsmnTok := [
  ⟨.object, 0, 47, -1⟩, ⟨.string, 2, 6, 0⟩, ⟨.object, 8, 23, 1⟩, ⟨.string, 10, 14, 2⟩, ⟨.string, 17, 21, 3⟩,
  ⟨.string, 25, 28, 0⟩, ⟨.object, 30, 46, 5⟩, ⟨.string, 32, 35, 6⟩, ⟨.array, 37, 45, 7⟩, ⟨.string, 39, 43, 8⟩]

def homeDocument : Json := .object [
  (ascii "wifi", .object [(ascii "ssid", .string (ascii "home"))]),
  (ascii "ntp", .object [(ascii "url", .array [.string (ascii "pool")])])]

theorem home_recognised : Recognised homeDocument := by
  refine ⟨_, rfl, ?_⟩
  simp only [List.forall_mem_cons, List.not_mem_nil, false_implies, implies_true, and_true]
  constructor
  · refine ⟨.wifi, by decide, rfl, _, rfl, ?_⟩
    simp only [List.forall_mem_cons, List.not_mem_nil, false_implies, implies_true, and_true]
    exact ⟨"ssid", by decide, rfl, fun _ psk => absurd psk (by decide)⟩
  · refine ⟨.ntp, by decide, rfl, _, rfl, ?_⟩
    simp only [List.forall_mem_cons, List.not_mem_nil, false_implies, implies_true, and_true]
    exact ⟨"url", by decide, rfl, fun _ psk => absurd psk (by decide)⟩

theorem load_holds_settings_home :
    (∃ after calls, misoLoadConfig (.given homeFile homeTokens) .zero = some (after, calls) ∧
      ∀ setting, setting ≠ .ntpUrl → after setting = settle (Store.zero setting) (setting.texts homeDocument)) ∧
        Setting.texts .wifiSsid homeDocument = [ascii "home"] :=
  ⟨(load_holds_settings (.given homeFile homeTokens) homeTokens homeDocument .zero (given_loads _ _) (by decide)
    home_recognised).mpr (by decide), by decide⟩

def longEntry : List Byte := List.replicate 65 97

def longFile : List Byte := ascii "\x7b\"ntp\":\x7b\"url\":[\"" ++ longEntry ++ ascii "\"]\x7d\x7d"

def longTokens : List JsmnTok := [
  ⟨.object, 0, 85, -1⟩, ⟨.string, 2, 5, 0⟩, ⟨.object, 7, 84, 1⟩, ⟨.string, 9, 12, 2⟩, ⟨.array, 14, 83, 3⟩,
  ⟨.string, 16, 81, 4⟩]

def longDocument : Json := .object [(ascii "ntp", .object [(ascii "url", .array [.string longEntry])])]

theorem long_recognised : Recognised longDocument := by
  refine ⟨_, rfl, ?_⟩
  simp only [List.forall_mem_cons, List.not_mem_nil, false_implies, implies_true, and_true]
  refine ⟨.ntp, by decide, rfl, _, rfl, ?_⟩
  simp only [List.forall_mem_cons, List.not_mem_nil, false_implies, implies_true, and_true]
  exact ⟨"url", by decide, rfl, fun _ psk => absurd psk (by decide)⟩

-- One NTP entry of 65 bytes is copied past the end of its buffer.
theorem long_entry_overflows :
    Recognised longDocument ∧ (LoadEnv.given longFile longTokens).Loads longTokens ∧
      Tokenized longFile longTokens longDocument ∧ misoLoadConfig (.given longFile longTokens) .zero = none := by
  have tokenized : Tokenized longFile longTokens longDocument := by decide
  refine ⟨long_recognised, given_loads _ _, tokenized, ?_⟩
  have undefined : ¬ (Store.zero.writeAll (documentWrites longDocument)).isSome = true := by
    intro defined
    have short := (write_all_defined .zero _).mp defined
    rw [document_entries longDocument long_recognised] at short
    exact absurd (short longEntry List.mem_cons_self) (by decide)
  have result := load_result (.given longFile longTokens) longTokens longDocument .zero (given_loads _ _) tokenized
    (recognised_shaped longDocument long_recognised)
  rw [Option.not_isSome_iff_eq_none.mp undefined] at result
  exact Option.map_eq_none_iff.mp result

end Miso.Config
