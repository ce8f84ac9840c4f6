import Miso.Lwm2mServer

set_option autoImplicit false

namespace Miso.Lwm2mServer

open Base (Byte Step Carries lookup run settle)

variable {υ : Type}

-- A server by its resources; of the binding every character of its array.
structure Resources where
  shortServerId : Nat
  lifetime : Nat
  storing : Bool
  binding : List Byte
deriving DecidableEq

-- A resource with a value.
inductive Setting where
  | shortServerId (value : Nat)
  | lifetime (value : Nat)
  | storing (value : Bool)
  | binding (text : List Byte)
deriving DecidableEq

inductive Resource where
  | shortServerId
  | lifetime
  | storing
  | binding
  | executable
  | unknown
deriving DecidableEq

def resourceOf (id : BitVec 16) : Resource :=
  if id = 0 then .shortServerId
  else if id = 1 then .lifetime
  else if id = 6 then .storing
  else if id = 7 then .binding
  else if id = 4 ∨ id = 8 then .executable
  else .unknown

def number (least most : Int) (setting : Nat → Setting) : Option Int → Except CoapStatus Setting
  | none => .error .badRequest400
  | some value => if least ≤ value ∧ value ≤ most then .ok (setting value.toNat) else .error .notAcceptable406

-- What an entry sets, or why it is refused: no resource has instances of its
-- own, a short id is 1 to 65535, a lifetime fits 32 bits, a binding is a text of
-- 1 to 3 characters.
def meaning (api : DataApi υ) (entry : LwData υ) : Except CoapStatus Setting :=
  if entry.type = .multipleResource then .error .notFound404
  else match resourceOf entry.id with
    | .shortServerId => number 1 65535 .shortServerId (api.decodeInt entry)
    | .lifetime => number 0 4294967295 .lifetime (api.decodeInt entry)
    | .storing => (api.decodeBool entry).elim (.error .badRequest400) fun value => .ok (.storing value)
    | .binding =>
        if (entry.type = .string ∨ entry.type = .opaqueBytes) ∧ 0 < (api.asBuffer entry.value).length ∧
            (api.asBuffer entry.value).length ≤ 3 then .ok (.binding (api.asBuffer entry.value))
        else .error .badRequest400
    | .executable => .error .methodNotAllowed405
    | .unknown => .error .notFound404

-- A binding is laid over the old one: past the new text the old one stays, and
-- past a NUL in the new text there are zeros.
def overlaid (text old : List Byte) : List Byte :=
  Base.padded (text.takeWhile (· ≠ 0)) text.length ++ old.drop text.length

def Resources.set (server : Resources) : Setting → Resources
  | .shortServerId value => { server with shortServerId := value }
  | .lifetime value => { server with lifetime := value }
  | .storing value => { server with storing := value }
  | .binding text => { server with binding := overlaid text server.binding }

-- The entries take effect in their order up to the first one that is refused:
-- the refusal, and the server then.
def Resources.write (api : DataApi υ) (server : Resources) (entries : List (LwData υ)) : Option CoapStatus × Resources :=
  settle (meaning api) Resources.set server entries

def Resources.blank : Resources := ⟨0, 0, false, [0, 0, 0, 0]⟩

-- The object by its purpose: a map from instance ids to servers.
abbrev Servers := BitVec 16 → Option Resources

def Servers.write (api : DataApi υ) (servers : Servers) (instanceId : BitVec 16) (entries : List (LwData υ)) :
    CoapStatus × Servers :=
  match servers instanceId with
  | none => (.notFound404, servers)
  | some server =>
      ((server.write api entries).1.getD .changed204, Function.update servers instanceId (some (server.write api entries).2))

def Servers.delete (servers : Servers) (instanceId : BitVec 16) : CoapStatus × Servers :=
  match servers instanceId with
  | none => (.notFound404, servers)
  | some _ => (.deleted202, Function.update servers instanceId none)

-- A server that is new takes every entry or is not made.
def Servers.create (api : DataApi υ) (memory : Bool) (servers : Servers) (instanceId : BitVec 16) (entries : List (LwData υ)) :
    CoapStatus × Servers :=
  if memory then
    match Resources.blank.write api entries with
    | (none, server) => (.created201, Function.update servers instanceId (some server))
    | (some refusal, _) => (refusal, servers)
  else (.internalServerError500, servers)

-- The old server is gone whatever becomes of the new one.
def Servers.replace (api : DataApi υ) (memory : Bool) (servers : Servers) (instanceId : BitVec 16) (entries : List (LwData υ)) :
    CoapStatus × Servers :=
  match servers instanceId with
  | none => (.notFound404, servers)
  | some _ =>
      match (Servers.delete servers instanceId).2.create api memory instanceId entries with
      | (.created201, after) => (.changed204, after)
      | refused => refused

def Servers.serve (api : DataApi υ) (servers : Servers) : Request υ → CoapStatus × Servers
  | .write memory instanceId dataArray .replaceInstance => servers.replace api memory instanceId dataArray
  | .write _ instanceId dataArray _ => servers.write api instanceId dataArray
  | .create memory instanceId dataArray => servers.create api memory instanceId dataArray
  | .delete instanceId => servers.delete instanceId

def Servers.run (api : DataApi υ) (servers : Servers) (answers : List CoapStatus) : List (Request υ) → Servers × List CoapStatus
  | [] => (servers, answers)
  | request :: rest => Servers.run api (servers.serve api request).2 ((servers.serve api request).1 :: answers) rest

-- The core passes at least one entry on, and creates no instance that is there.
def Asked (servers : Servers) : Request υ → Prop
  | .write _ _ dataArray _ => 0 < dataArray.length
  | .create _ instanceId dataArray => 0 < dataArray.length ∧ servers instanceId = none
  | .delete _ => True

def AskedAlong (api : DataApi υ) (servers : Servers) : List (Request υ) → Prop
  | [] => True
  | request :: rest => Asked servers request ∧ AskedAlong api (servers.serve api request).2 rest

def ServerInstance.resources (targetP : ServerInstance) : Resources :=
  ⟨targetP.shortServerId.toNat, targetP.lifetime.toNat, targetP.storing, targetP.binding.bytes⟩

def servers (objects : Instances) : Servers := fun id => (objects id).map ServerInstance.resources

-- The servers that a list of instances stands for.
def serversOf (instances : List ServerInstance) : Servers := servers (lookup ServerInstance.instanceId instances)

variable (api : DataApi υ)

-- A pass of the loop does what its entry means.
def Does (targetP : ServerInstance) (answer : CoapStatus × ServerInstance) (meant : Except CoapStatus Setting) : Prop :=
  Carries Resources.set .changed204 ServerInstance.resources targetP answer meant

theorem short_id_carries (targetP : ServerInstance) (entry : LwData υ) :
    Does targetP (writeShortId api targetP entry) (number 1 65535 .shortServerId (api.decodeInt entry)) := by
  unfold writeShortId prvSetIntValue
  cases api.decodeInt entry with
  | none => exact ⟨rfl, by decide⟩
  | some value =>
      by_cases word : 0 ≤ value ∧ value ≤ 0xFFFFFFFF
      · have wide : (BitVec.ofInt 32 value).toNat = value.toNat := by
          rw [BitVec.toNat_ofInt]
          omega
        by_cases fits : 1 ≤ value ∧ value ≤ 65535
        · have inside : 0 < BitVec.ofInt 32 value ∧ BitVec.ofInt 32 value ≤ 0xFFFF := by
            rw [BitVec.lt_def, BitVec.le_def, wide]
            simp
            omega
          simp only [number, if_pos word, if_pos fits, if_pos inside]
          refine ⟨rfl, ?_⟩
          simp only [ServerInstance.resources, Resources.set, BitVec.toNat_setWidth, wide, Resources.mk.injEq, and_true]
          omega
        · have outside : ¬ (0 < BitVec.ofInt 32 value ∧ BitVec.ofInt 32 value ≤ 0xFFFF) := by
            rw [BitVec.lt_def, BitVec.le_def, wide]
            simp
            omega
          simp only [number, if_pos word, if_neg fits, if_neg outside]
          exact ⟨rfl, by decide⟩
      · have fits : ¬ (1 ≤ value ∧ value ≤ 65535) := by omega
        simp only [number, if_neg word, if_neg fits]
        exact ⟨rfl, by decide⟩

theorem lifetime_carries (targetP : ServerInstance) (entry : LwData υ) :
    Does targetP (writeLifetime api targetP entry) (number 0 4294967295 .lifetime (api.decodeInt entry)) := by
  unfold writeLifetime prvSetIntValue
  cases api.decodeInt entry with
  | none => exact ⟨rfl, by decide⟩
  | some value =>
      by_cases word : 0 ≤ value ∧ value ≤ 4294967295
      · have wide : (BitVec.ofInt 32 value).toNat = value.toNat := by
          rw [BitVec.toNat_ofInt]
          omega
        simp only [number, if_pos word]
        refine ⟨rfl, ?_⟩
        simp only [ServerInstance.resources, Resources.set, wide]
      · simp only [number, if_neg word]
        exact ⟨rfl, by decide⟩

theorem storing_carries (targetP : ServerInstance) (entry : LwData υ) :
    Does targetP (writeStoring api targetP entry)
      ((api.decodeBool entry).elim (.error .badRequest400) fun value => .ok (.storing value)) := by
  unfold writeStoring
  cases api.decodeBool entry with
  | none => exact ⟨rfl, by decide⟩
  | some value => exact ⟨rfl, rfl⟩

theorem binding_carries (targetP : ServerInstance) (entry : LwData υ) :
    Does targetP (writeBinding api targetP entry)
      (if (entry.type = .string ∨ entry.type = .opaqueBytes) ∧ 0 < (api.asBuffer entry.value).length ∧
          (api.asBuffer entry.value).length ≤ 3 then .ok (.binding (api.asBuffer entry.value))
        else .error .badRequest400) := by
  unfold writeBinding
  split
  · rename_i fits
    refine ⟨rfl, ?_⟩
    obtain ⟨copy, made⟩ := Option.isSome_iff_exists.mp (binding_fits targetP.binding _ fits.2.2)
    have bytes := Base.strncpy_bytes targetP.binding copy _ _ made
    simp only [made, Option.get_some]
    rw [ServerInstance.resources, bytes, Base.cText, List.take_length]
    rfl
  · exact ⟨rfl, by decide⟩

theorem visit_carries (targetP : ServerInstance) (entry : LwData υ) :
    Does targetP (writeVisit api targetP entry) (meaning api entry) := by
  unfold writeVisit meaning
  by_cases multiple : entry.type = .multipleResource
  · rw [if_pos multiple, if_pos multiple]
    exact ⟨rfl, by decide⟩
  rw [if_neg multiple, if_neg multiple]
  by_cases shortId : entry.id = lwm2mServerShortIdId
  · rw [if_pos shortId, shortId]
    exact short_id_carries api targetP entry
  by_cases lifetime : entry.id = lwm2mServerLifetimeId
  · rw [if_neg shortId, if_pos lifetime, lifetime]
    exact lifetime_carries api targetP entry
  by_cases disable : entry.id = lwm2mServerDisableId
  · rw [disable]
    exact ⟨rfl, by decide⟩
  by_cases storing : entry.id = lwm2mServerStoringId
  · rw [storing]
    exact storing_carries api targetP entry
  by_cases binding : entry.id = lwm2mServerBindingId
  · rw [binding]
    exact binding_carries api targetP entry
  by_cases update : entry.id = lwm2mServerUpdateId
  · rw [update]
    exact ⟨rfl, by decide⟩
  have unknown : resourceOf entry.id = .unknown := by
    have others : ¬ (entry.id = 4 ∨ entry.id = 8) := not_or.mpr ⟨disable, update⟩
    exact (if_neg shortId).trans ((if_neg lifetime).trans ((if_neg storing).trans ((if_neg binding).trans (if_neg others))))
  rw [unknown, if_neg shortId, if_neg lifetime, if_neg disable, if_neg storing, if_neg binding, if_neg update]
  exact ⟨rfl, by decide⟩

def Accepts (entry : LwData υ) : Prop := ∃ setting, meaning api entry = .ok setting

theorem meaning_refusal (entry : LwData υ) (refusal : CoapStatus) (meant : meaning api entry = .error refusal) :
    refusal ≠ .changed204 ∧ refusal ≠ .created201 := by
  unfold meaning number at meant
  cases decoded : api.decodeBool entry <;> grind

theorem write_refusal (server : Resources) (dataArray : List (LwData υ)) (refusal : CoapStatus)
    (refused : (server.write api dataArray).1 = some refusal) : refusal ≠ .changed204 ∧ refusal ≠ .created201 := by
  obtain ⟨entry, _, meant⟩ := Base.settle_refusal (meaning api) Resources.set server dataArray refusal refused
  exact meaning_refusal api entry refusal meant

-- The loop of a write does what its entries mean.
theorem written_carries (targetP : ServerInstance) (dataArray : List (LwData υ)) :
    (written api targetP dataArray).1 = (targetP.resources.write api dataArray).1.getD .changed204 ∧
      (written api targetP dataArray).2.resources = (targetP.resources.write api dataArray).2 :=
  Base.scan_with_settles (meaning api) Resources.set (writeVisit api) .changed204 ServerInstance.resources
    (visit_carries api) targetP dataArray

theorem servers_update (objects : Instances) (instanceId : BitVec 16) (targetP : Option ServerInstance) :
    servers (Function.update objects instanceId targetP) =
      Function.update (servers objects) instanceId (targetP.map ServerInstance.resources) := by
  funext other
  by_cases here : other = instanceId
  · rw [servers, here, Function.update_self, Function.update_self]
  · rw [servers, Function.update_of_ne here, Function.update_of_ne here, servers]

theorem write_carries (objects : Instances) (instanceId : BitVec 16) (dataArray : List (LwData υ)) :
    (servers objects).write api instanceId dataArray =
      ((mapWrite api objects instanceId dataArray).1, servers (mapWrite api objects instanceId dataArray).2) := by
  unfold Servers.write mapWrite
  cases present : objects instanceId with
  | none => simp only [servers, present, Option.map_none]
  | some targetP =>
      obtain ⟨status, after⟩ := written_carries api targetP dataArray
      have here : servers objects instanceId = some targetP.resources := by rw [servers, present, Option.map_some]
      simp only [here, servers_update, Option.map_some, status, after]

theorem delete_carries (objects : Instances) (instanceId : BitVec 16) :
    (servers objects).delete instanceId = ((mapDelete objects instanceId).1, servers (mapDelete objects instanceId).2) := by
  unfold Servers.delete mapDelete
  cases present : objects instanceId with
  | none => simp only [servers, present, Option.map_none]
  | some targetP =>
      have here : servers objects instanceId = some targetP.resources := by rw [servers, present, Option.map_some]
      simp only [here, servers_update, Option.map_none]

theorem create_carries (memory : Bool) (objects : Instances) (instanceId : BitVec 16) (dataArray : List (LwData υ)) :
    (servers objects).create api memory instanceId dataArray =
      ((mapCreate api memory objects instanceId dataArray).1,
        servers (mapCreate api memory objects instanceId dataArray).2) := by
  unfold Servers.create mapCreate
  cases memory with
  | false => rfl
  | true =>
      have blank : (ServerInstance.zero instanceId).resources = .blank := rfl
      obtain ⟨status, after⟩ := written_carries api (ServerInstance.zero instanceId) dataArray
      have refused := write_refusal api Resources.blank dataArray
      rw [blank] at status after
      rw [if_pos rfl, if_pos rfl, status]
      generalize Resources.blank.write api dataArray = result at *
      obtain ⟨refusal, server⟩ := result
      cases refusal with
      | none => simp only [Option.getD_none, if_true, servers_update, Option.map_some, after]
      | some refusal =>
          have other : refusal ≠ .changed204 := (refused refusal rfl).1
          simp only [Option.getD_some, if_neg other]

theorem replace_carries (memory : Bool) (objects : Instances) (instanceId : BitVec 16) (dataArray : List (LwData υ)) :
    (servers objects).replace api memory instanceId dataArray =
      ((mapReplace api memory objects instanceId dataArray).1,
        servers (mapReplace api memory objects instanceId dataArray).2) := by
  unfold Servers.replace mapReplace
  cases present : objects instanceId with
  | none => simp only [servers, present, Option.map_none]
  | some targetP =>
      have here : servers objects instanceId = some targetP.resources := by rw [servers, present, Option.map_some]
      have gone : ((servers objects).delete instanceId).2 = servers (Function.update objects instanceId none) := by
        rw [Servers.delete, here, servers_update]
        rfl
      simp only [here, gone, create_carries]
      obtain ⟨status, after⟩ := mapCreate api memory (Function.update objects instanceId none) instanceId dataArray
      cases status <;> rfl

theorem serve_refines {list : ListApi} (works : list.Works) (served : Served) (well : Well served.instances) (request : Request υ)
    (asked : Asked (serversOf served.instances) request) :
    ∃ after, serve api list served request = some after ∧ Well after.instances ∧
      serversOf after.instances = ((serversOf served.instances).serve api request).2 ∧
      after.answers = ((serversOf served.instances).serve api request).1 :: served.answers := by
  have answered (result : Option (CoapStatus × List ServerInstance)) (objects : CoapStatus × Instances)
      (spec : CoapStatus × Servers) (refines : Refines result objects) (carried : spec = (objects.1, servers objects.2)) :
      ∃ after, result.map served.answer = some after ∧ Well after.instances ∧ serversOf after.instances = spec.2 ∧
        after.answers = spec.1 :: served.answers := by
    obtain ⟨status, instances, done, kept, same⟩ := refines
    refine ⟨served.answer (status, instances), by rw [done, Option.map_some], kept, ?_, ?_⟩
    · rw [carried, ← same]
      rfl
    · rw [carried, ← same]
      rfl
  cases request with
  | write memory instanceId dataArray writeType =>
      have refines := prv_server_write api works memory served.instances well instanceId dataArray
        (List.length_pos_iff.mp asked) writeType
      cases writeType with
      | replaceInstance => exact answered _ _ _ refines (replace_carries api memory _ instanceId dataArray)
      | replaceResources => exact answered _ _ _ refines (write_carries api _ instanceId dataArray)
      | partialUpdate => exact answered _ _ _ refines (write_carries api _ instanceId dataArray)
  | create memory instanceId dataArray =>
      have absent : lookup ServerInstance.instanceId served.instances instanceId = none := Option.map_eq_none_iff.mp asked.2
      exact answered _ _ _ (prv_server_create api works memory served.instances well instanceId dataArray
        (List.length_pos_iff.mp asked.1) absent) (create_carries api memory _ instanceId dataArray)
  | delete instanceId =>
      exact answered _ _ _ (prv_server_delete works served.instances well instanceId) (delete_carries _ instanceId)

theorem serve_run {list : ListApi} (works : list.Works) (served : Served) (well : Well served.instances)
    (requests : List (Request υ)) (asked : AskedAlong api (serversOf served.instances) requests) :
    ∃ final, run (serve api list) served requests = some final ∧ Well final.instances ∧
      (serversOf final.instances, final.answers) = (serversOf served.instances).run api served.answers requests := by
  induction requests generalizing served with
  | nil => exact ⟨served, rfl, well, rfl⟩
  | cons request rest ih =>
      obtain ⟨next, done, nextWell, view, answers⟩ := serve_refines api works served well request asked.1
      obtain ⟨final, ran, finalWell, same⟩ := ih next nextWell (view ▸ asked.2)
      refine ⟨final, by rw [run, done, Option.bind_some, ran], finalWell, ?_⟩
      rw [same, Servers.run, view, answers]

-- The one server that the object starts with.
def Servers.initial : Servers := Function.update (fun _ => none) 0 (some ⟨123, 900, false, [85, 0, 0, 0]⟩)

theorem initial_servers {list : ListApi} (works : list.Works) : serversOf (getServerObject list) = .initial := by
  rw [serversOf, (get_server_object works).2, servers_update]
  rfl

-- Whatever the core asks of it, the object answers as the map from instance
-- ids to servers does, the ids stay in order without one twice, and no binding
-- runs past its array.
theorem server_object_refines {list : ListApi} (works : list.Works) (requests : List (Request υ))
    (asked : AskedAlong api .initial requests) :
    ∃ final, run (serve api list) ⟨getServerObject list, []⟩ requests = some final ∧
      (serversOf final.instances, final.answers) = Servers.initial.run api [] requests ∧
      Sorted final.instances ∧ ∀ instance_ ∈ final.instances, instance_.binding.Terminated := by
  have start := initial_servers works
  obtain ⟨final, ran, finalWell, same⟩ :=
    serve_run api works ⟨getServerObject list, []⟩ (get_server_object works).1 requests (start.symm ▸ asked)
  refine ⟨final, ran, ?_, finalWell.sorted, fun instance_ member => ?_⟩
  · rw [same, start]
  · exact List.mem_of_getElem? (finalWell.terminated instance_ member)

def exchange : List (Request Datum) :=
  [.create true 1 [⟨lwm2mServerShortIdId, .other, .integer 7⟩],
    .write true 0 [⟨lwm2mServerBindingId, .string, .buffer [83]⟩] .partialUpdate,
    .write true 0 [⟨lwm2mServerTimeoutId, .other, .integer 60⟩] .replaceInstance, .delete 1]

theorem server_object_refines_exchange :
    ∃ final, run (serve storingApi sortedList) ⟨getServerObject sortedList, []⟩ exchange = some final ∧
      (serversOf final.instances, final.answers) = Servers.initial.run storingApi [] exchange ∧
      Sorted final.instances ∧ ∀ instance_ ∈ final.instances, instance_.binding.Terminated :=
  server_object_refines storingApi sorted_list_works exchange
    ⟨⟨Nat.one_pos, rfl⟩, Nat.one_pos, Nat.one_pos, trivial, trivial⟩

theorem create_settles (memory : Bool) (before : Servers) (instanceId : BitVec 16) (dataArray : List (LwData υ)) :
    ((before.create api memory instanceId dataArray).1 = .created201 ↔ memory = true ∧ ∀ entry ∈ dataArray, Accepts api entry) ∧
      (before.create api memory instanceId dataArray).1 ≠ .changed204 ∧
      (before.create api memory instanceId dataArray).2 =
        if (before.create api memory instanceId dataArray).1 = .created201 then
          Function.update before instanceId (some (Resources.blank.write api dataArray).2)
        else before := by
  have accepts : (Resources.blank.write api dataArray).1 = none ↔ ∀ entry ∈ dataArray, Accepts api entry :=
    Base.settle_accepts (meaning api) Resources.set Resources.blank dataArray
  have refusals := write_refusal api Resources.blank dataArray
  unfold Servers.create
  cases memory with
  | false => simp
  | true =>
      generalize Resources.blank.write api dataArray = result at *
      obtain ⟨refusal, server⟩ := result
      cases refusal with
      | none => simpa using accepts
      | some refusal =>
          obtain ⟨notChanged, notCreated⟩ := refusals refusal rfl
          have some_ : ¬ ∀ entry ∈ dataArray, Accepts api entry := fun all => by simpa using accepts.mpr all
          simp [notCreated, notChanged, some_]

theorem replace_settles (memory : Bool) (before : Servers) (instanceId : BitVec 16) (dataArray : List (LwData υ))
    (server : Resources) (present : before instanceId = some server) :
    ((before.replace api memory instanceId dataArray).1 = .changed204 ↔
        memory = true ∧ ∀ entry ∈ dataArray, Accepts api entry) ∧
      (before.replace api memory instanceId dataArray).2 = Function.update before instanceId
        (if (before.replace api memory instanceId dataArray).1 = .changed204 then
          some (Resources.blank.write api dataArray).2 else none) := by
  have gone : (before.delete instanceId).2 = Function.update before instanceId none := by rw [Servers.delete, present]
  obtain ⟨accepted, notChanged, ends⟩ := create_settles api memory (Function.update before instanceId none) instanceId dataArray
  unfold Servers.replace
  simp only [present, gone]
  generalize Servers.create api memory (Function.update before instanceId none) instanceId dataArray = result at *
  obtain ⟨status, after⟩ := result
  by_cases made : status = .created201
  · subst made
    rw [if_pos rfl, Function.update_idem] at ends
    exact ⟨iff_of_true rfl (accepted.mp rfl), ends⟩
  · rw [if_neg made] at ends
    have same : (match (status, after) with
        | (.created201, after) => (CoapStatus.changed204, after)
        | refused => refused) = (status, after) := by
      cases status <;> first | rfl | exact absurd rfl made
    rw [same, if_neg notChanged]
    exact ⟨iff_of_false notChanged (mt accepted.mpr made), ends⟩

-- A refused create leaves the object as it was. A refused replacement has
-- already deleted the instance. Any other write keeps what it accepted before
-- the entry it refused, and answers that entry's refusal.
theorem refused_request {list : ListApi} (works : list.Works) (memory : Bool) (instances : List ServerInstance)
    (well : Well instances) (instanceId : BitVec 16) (dataArray : List (LwData υ)) (entries : dataArray ≠ []) :
    (serversOf instances instanceId = none →
      ∃ status after, prvServerCreate api list memory instances instanceId dataArray = some (status, after) ∧
        (status = .created201 ↔ memory = true ∧ ∀ entry ∈ dataArray, Accepts api entry) ∧
        (status ≠ .created201 → serversOf after = serversOf instances)) ∧
    ∀ server, serversOf instances instanceId = some server →
      (∃ status after,
        prvServerWrite api list memory instances instanceId dataArray .replaceInstance = some (status, after) ∧
        (status = .changed204 ↔ memory = true ∧ ∀ entry ∈ dataArray, Accepts api entry) ∧
        serversOf after = Function.update (serversOf instances) instanceId
          (if status = .changed204 then some (Resources.blank.write api dataArray).2 else none)) ∧
      ∀ writeType, writeType ≠ .replaceInstance → ∃ status after, ∃ settings : List Setting, ∃ rest,
        prvServerWrite api list memory instances instanceId dataArray writeType = some (status, after) ∧
        dataArray.map (meaning api) = settings.map .ok ++ rest ∧
        (rest = [] ∧ status = .changed204 ∨ status ≠ .changed204 ∧ ∃ later, rest = .error status :: later) ∧
        serversOf after = Function.update (serversOf instances) instanceId (some (settings.foldl Resources.set server)) := by
  have served (request : Request υ) (asked : Asked (serversOf instances) request) :=
    serve_refines api works ⟨instances, []⟩ well request asked
  have some_ : 0 < dataArray.length := List.length_pos_iff.mpr entries
  refine ⟨fun absent => ?_, fun server present => ⟨?_, fun writeType other => ?_⟩⟩
  · obtain ⟨after, done, _, view, answers⟩ := served (.create memory instanceId dataArray) ⟨some_, absent⟩
    obtain ⟨⟨status, left⟩, created, rfl⟩ := Option.map_eq_some_iff.mp done
    obtain ⟨accepted, _, ends⟩ := create_settles api memory (serversOf instances) instanceId dataArray
    obtain rfl : status = _ := (List.cons.inj answers).1
    refine ⟨_, left, created, accepted, fun refused => ?_⟩
    exact view.trans (ends.trans (if_neg refused))
  · obtain ⟨after, done, _, view, answers⟩ := served (.write memory instanceId dataArray .replaceInstance) some_
    obtain ⟨⟨status, left⟩, replaced, rfl⟩ := Option.map_eq_some_iff.mp done
    obtain ⟨accepted, ends⟩ := replace_settles api memory (serversOf instances) instanceId dataArray server present
    obtain rfl : status = _ := (List.cons.inj answers).1
    exact ⟨_, left, replaced, accepted, view.trans ends⟩
  · obtain ⟨after, done, _, view, answers⟩ := served (.write memory instanceId dataArray writeType) some_
    obtain ⟨⟨status, left⟩, wrote, rfl⟩ := Option.map_eq_some_iff.mp done
    obtain rfl : status = _ := (List.cons.inj answers).1
    have spec : (serversOf instances).serve api (.write memory instanceId dataArray writeType) =
        ((server.write api dataArray).1.getD .changed204,
          Function.update (serversOf instances) instanceId (some (server.write api dataArray).2)) := by
      cases writeType with
      | replaceInstance => exact absurd rfl other
      | replaceResources => simp only [Servers.serve, Servers.write, present]
      | partialUpdate => simp only [Servers.serve, Servers.write, present]
    obtain ⟨settings, rest, shape, ends, settled⟩ := Base.settle_splits (meaning api) Resources.set server dataArray
    rw [← Resources.write] at ends settled
    refine ⟨_, left, settings, rest, wrote, shape, ?_, view.trans ?_⟩
    · rw [spec]
      rcases settled with ⟨nothing, all⟩ | ⟨refusal, later, stops, refused⟩
      · exact .inl ⟨nothing, by rw [all, Option.getD_none]⟩
      · refine .inr ?_
        rw [refused, Option.getD_some]
        exact ⟨(write_refusal api server dataArray refusal refused).1, later, stops⟩
    · rw [spec, ends]

-- The lifetime is taken, then the short id 0 refused.
def refusedEntries : List (LwData Datum) :=
  [⟨lwm2mServerLifetimeId, .other, .integer 60⟩, ⟨lwm2mServerShortIdId, .other, .integer 0⟩]

theorem refused_request_short_id :
    (serversOf (getServerObject sortedList) 0 = none →
      ∃ status after,
        prvServerCreate storingApi sortedList true (getServerObject sortedList) 0 refusedEntries = some (status, after) ∧
        (status = .created201 ↔ true = true ∧ ∀ entry ∈ refusedEntries, Accepts storingApi entry) ∧
        (status ≠ .created201 → serversOf after = serversOf (getServerObject sortedList))) ∧
    ∀ server, serversOf (getServerObject sortedList) 0 = some server →
      (∃ status after,
        prvServerWrite storingApi sortedList true (getServerObject sortedList) 0 refusedEntries .replaceInstance =
          some (status, after) ∧
        (status = .changed204 ↔ true = true ∧ ∀ entry ∈ refusedEntries, Accepts storingApi entry) ∧
        serversOf after = Function.update (serversOf (getServerObject sortedList)) 0
          (if status = .changed204 then some (Resources.blank.write storingApi refusedEntries).2 else none)) ∧
      ∀ writeType, writeType ≠ .replaceInstance → ∃ status after, ∃ settings : List Setting, ∃ rest,
        prvServerWrite storingApi sortedList true (getServerObject sortedList) 0 refusedEntries writeType = some (status, after) ∧
        refusedEntries.map (meaning storingApi) = settings.map .ok ++ rest ∧
        (rest = [] ∧ status = .changed204 ∨ status ≠ .changed204 ∧ ∃ later, rest = .error status :: later) ∧
        serversOf after = Function.update (serversOf (getServerObject sortedList)) 0
          (some (settings.foldl Resources.set server)) :=
  refused_request storingApi sorted_list_works true (getServerObject sortedList)
    (get_server_object sorted_list_works).1 0 refusedEntries (List.cons_ne_nil _ _)

-- Neither a read, a write nor an execute knows these.
def unserved : List (BitVec 16) := [lwm2mServerMinPeriodId, lwm2mServerMaxPeriodId, lwm2mServerTimeoutId]

-- Discover names what a read answers, what can be executed, and three
-- resources that nothing serves.
theorem discovered_served {list : ListApi} (works : list.Works) (instances : List ServerInstance) (well : Well instances)
    (instanceId : BitVec 16) (present : serversOf instances instanceId ≠ none) (dataArray : List (LwData υ))
    (entries : dataArray ≠ []) (single : ∀ entry ∈ dataArray, entry.type ≠ .multipleResource) :
    (prvServerDiscover api instanceId dataArray).1 = .content205 ↔ ∀ entry ∈ dataArray,
      (prvServerRead api list instances instanceId [entry]).1 = .content205 ∨
        prvServerExecute list instances instanceId entry.id = .changed204 ∨ entry.id ∈ unserved := by
  obtain ⟨index, targetP, found, located⟩ : ∃ index targetP, list.find instances instanceId = some index ∧
      findInstance list instances instanceId = some (index, targetP) := by
    rcases find_instance works instances well instanceId with ⟨_, _, absent⟩ | ⟨index, targetP, found, _, _, located, _⟩
    · exact absurd (Option.map_eq_none_iff.mpr absent) present
    · exact ⟨index, targetP, found, located⟩
  have visits : (prvServerDiscover api instanceId dataArray).1 = .content205 ↔
      ∀ entry ∈ dataArray, (discoverVisit entry).1 = .content205 := by
    cases dataArray with
    | nil => exact absurd rfl entries
    | cons entry rest => exact Base.scan_again discoverVisit .content205 .content205 (entry :: rest) entries
  rw [visits]
  refine forall_congr' fun entry => forall_congr' fun member => ?_
  have read : (prvServerRead api list instances instanceId [entry]).1 = (prvGetValue api targetP entry).1 := by
    unfold prvServerRead
    simp only [located, Base.scan, readVisit, if_neg (single entry member)]
    split <;> simp_all
  have executed : prvServerExecute list instances instanceId entry.id =
      if entry.id = lwm2mServerDisableId ∨ entry.id = lwm2mServerUpdateId then .changed204 else .methodNotAllowed405 := by
    unfold prvServerExecute
    simp only [found]
    split <;> grind
  rw [read, executed, discoverVisit]
  by_cases named : entry.id ∈ discoverResList
  · refine iff_of_true (by rw [List.any_eq_true.mpr ⟨entry.id, named, by simp⟩]; rfl) ?_
    simp only [discoverResList, List.mem_cons, List.not_mem_nil, or_false] at named
    rcases named with id | id | id | id | id | id | id | id | id <;> simp only [prvGetValue, unserved, id] <;> simp +decide
  · have absent : discoverResList.any (· = entry.id) = false := by
      rw [List.any_eq_false]
      intro other listed same
      exact named (of_decide_eq_true same ▸ listed)
    refine iff_of_false (by simp [absent]) ?_
    simp only [discoverResList, List.mem_cons, List.not_mem_nil, or_false, not_or] at named
    obtain ⟨shortId, lifetime, minPeriod, maxPeriod, disable, timeout, storing, binding, update⟩ := named
    simp [prvGetValue, unserved, shortId, lifetime, minPeriod, maxPeriod, disable, timeout, storing, binding, update]

-- Asked for the whole object it lists all nine.
theorem discovered_whole (works : api.Works) (instanceId : BitVec 16) :
    ∃ data, prvServerDiscover api instanceId [] = (.content205, data) ∧ data.map LwData.id = discoverResList := by
  obtain ⟨data, allocated, length, _⟩ := works.allocates discoverResList.length (by decide)
  refine ⟨List.zipWith (fun id entry => { entry with id := id }) discoverResList data, ?_, ?_⟩
  · rw [prvServerDiscover, fullObject, allocated, Option.map_some]
  · exact List.ext_getElem (by simp [length]) fun index _ _ => by simp

end Miso.Lwm2mServer
