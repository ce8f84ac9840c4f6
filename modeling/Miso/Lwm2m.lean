import Miso.Base.Chain
import Miso.Base.Run

set_option autoImplicit false

namespace Miso.Lwm2m

open Base (Heap Chain Step Reach seek)

structure SecurityInstance where
  instanceId : BitVec 16
  uri : String

-- connection_s; parent is the network context all sessions share.
structure Connection (α κ : Type) where
  parent : κ
  next : Option α

inductive Event (α κ : Type) where
  | strdup (address : α)
  | createConnection (param : κ) (ret : Int)
  | mallocNode (address : α)
  | freeUri (address : α)
  | freeNode (address : α)
  | closeConnection (parent : κ)
deriving DecidableEq

-- client_data_t and the memory it points into; trace, newest first, is for the
-- specification only.
structure Client (α κ : Type) where
  nodes : Heap α (Connection α κ)
  texts : Heap α String
  securityObj : List SecurityInstance
  connList : Option α
  param : κ
  trace : List (Event α κ)

-- What the allocator answers, and lwm2mservice_create_connection: its result,
-- and whether it frees the copy that it is passed.
structure Answers (α : Type) where
  uri : Option α
  uriAgain : Option α
  created : Int
  freesUri : Bool
  node : Option α

section

variable {α κ : Type} [DecidableEq α]

def Client.log (client : Client α κ) (event : Event α κ) : Client α κ := { client with trace := event :: client.trace }

def Client.strdup (client : Client α κ) (text : String) : Option α → Client α κ × Option α
  | none => (client, none)
  | some address => ({ client with texts := client.texts.write address text }.log (.strdup address), some address)

def Client.getServerUri (client : Client α κ) (secObjInstID : BitVec 16) (answer : Option α) : Client α κ × Option α :=
  match client.securityObj.find? fun instance_ => instance_.instanceId = secObjInstID with
  | some targetP => client.strdup targetP.uri answer
  | none => (client, none)

def Client.freeUri (client : Client α κ) (uri : α) : Client α κ :=
  { client with texts := client.texts.free uri }.log (.freeUri uri)

def Client.freeNode (client : Client α κ) (node : α) : Client α κ :=
  { client with nodes := client.nodes.free node }.log (.freeNode node)

-- none stands for a loop that has not ended within its fuel, or a pointer to
-- nothing.
def Client.connectionCreate (client : Client α κ) (ctx : κ) (fuel : Nat) : Option α → Option (Client α κ × Option α)
  | none => some (client, none)
  | some newConn =>
      let made := { client with nodes := client.nodes.write newConn ⟨ctx, none⟩ }.log (.mallocNode newConn)
      match client.connList with
      | none => some (made, some newConn)
      | some _ => do
          let last ← seek Connection.next (fun cell => cell.next.isNone) made.nodes fuel client.connList
          let traversal ← last
          let cell ← made.nodes traversal
          some ({ made with nodes := made.nodes.write traversal { cell with next := some newConn } }, some newConn)

def Client.createConnection (client : Client α κ) (answers : Answers α) (uri : Option α) : Client α κ :=
  let client := client.log (.createConnection client.param answers.created)
  if answers.freesUri then uri.elim client client.freeUri else client

def Client.connectServer (client : Client α κ) (secObjInstID : BitVec 16) (answers : Answers α) (fuel : Nat) :
    Option (Client α κ × Option α) :=
  match client.getServerUri secObjInstID answers.uri with
  | (client, none) => some (client, none)
  | (client, some uri) => do
      let (client, uriAgain) := client.getServerUri secObjInstID answers.uriAgain
      let client := client.createConnection answers uriAgain
      let (client, newConnP) ←
        if answers.created = 0 then client.connectionCreate client.param fuel answers.node else some (client, none)
      let client := if client.connList.isNone then { client with connList := newConnP } else client
      some (client.freeUri uri, newConnP)

def Client.closeConnection (client : Client α κ) (targetP : α) (fuel : Nat) : Option (Client α κ) :=
  if client.connList = some targetP then do
    let target ← client.nodes targetP
    some ({ client with connList := target.next }.freeNode targetP)
  else do
    let found ← seek Connection.next (fun cell => cell.next = some targetP) client.nodes fuel client.connList
    match found with
    | none => some client
    | some parentP => do
        let parent ← client.nodes parentP
        let target ← client.nodes targetP
        some ({ client with nodes := client.nodes.write parentP { parent with next := target.next } }.freeNode targetP)

-- do { close; if (next != NULL) connList = next; } while (connList->next != NULL);
def Client.freeLoop (client : Client α κ) : Nat → α → Option (Client α κ)
  | 0, _ => none
  | fuel + 1, connList => do
      let cell ← client.nodes connList
      let closed := client.log (.closeConnection cell.parent)
      match cell.next with
      | none => some closed
      | some next => do
          let following ← closed.nodes next
          if following.next.isSome then closed.freeLoop fuel next else some closed

def Client.connectionFree (client : Client α κ) (fuel : Nat) : Option (Client α κ) :=
  match client.connList with
  | none => some client
  | some head => client.freeLoop fuel head

-- The client, and the sessions it has opened and not closed, oldest first.
structure Sessions (α κ : Type) where
  client : Client α κ
  opened : List α

inductive Call (α : Type) where
  | connect (secObjInstID : BitVec 16) (answers : Answers α)
  | close (sessionH : α)

namespace Sessions

def start (param : κ) (securityObj : List SecurityInstance) : Sessions α κ :=
  ⟨⟨fun _ => none, fun _ => none, securityObj, none, param, []⟩, []⟩

-- The loops are given one round for each open session.
def step : Step (Sessions α κ) (Call α) := fun sessions call => match call with
  | .connect secObjInstID answers =>
      (sessions.client.connectServer secObjInstID answers sessions.opened.length).map fun (client, session) =>
        ⟨client, sessions.opened ++ session.toList⟩
  | .close sessionH =>
      (sessions.client.closeConnection sessionH sessions.opened.length).map fun client =>
        ⟨client, sessions.opened.erase sessionH⟩

end Sessions

def Answers.allocated (answers : Answers α) : List α := answers.uri.toList ++ answers.uriAgain.toList ++ answers.node.toList

-- The allocator hands out memory that is not in use.
def Fresh (sessions : Sessions α κ) : Call α → Prop
  | .connect _ answers => answers.allocated.Nodup ∧ ∀ address, address ∈ answers.allocated →
      (sessions.client.nodes address).isNone ∧ (sessions.client.texts address).isNone
  | .close _ => True

instance (sessions : Sessions α κ) : (call : Call α) → Decidable (Fresh sessions call)
  | .connect _ _ => inferInstanceAs (Decidable (_ ∧ _))
  | .close _ => inferInstanceAs (Decidable True)

end

end Miso.Lwm2m
