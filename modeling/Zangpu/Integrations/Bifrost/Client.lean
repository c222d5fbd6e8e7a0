import Zangpu.Integrations.Bifrost.Binding

/-!
The Bifrost management client.

Owns: the virtual-key requests of `BifrostClient` with their replies and errors,
the identifier check a request makes before it is sent, and the virtual keys as
Bifrost keeps them, with the effect of each request on them.

Does not own: HTTP, and inference requests. Bifrost is a third-party service: it
mints the identifier and the value of a new key, searches names exactly, and
accepts a second key of a name it already has. An answer the client cannot read
is an error of the request.
-/

set_option autoImplicit false

namespace Zangpu.Integrations.Bifrost

open Zangpu.Foundation
open Zangpu.Models

/-! ## Errors -/

structure BifrostUpstreamError where
  code : String
  statusCode : Int
  retryable : Bool
  deriving DecidableEq, Repr

def bifrostNotFound : String := "BIFROST_NOT_FOUND"

/-- `BifrostProtocolError`. -/
def bifrostProtocolError : BifrostUpstreamError := ⟨"BIFROST_PROTOCOL_ERROR", 502, true⟩

/-- The answer to a request for a key that Bifrost does not have. -/
def bifrostMissing : BifrostUpstreamError := ⟨bifrostNotFound, 404, false⟩

/-! ## Virtual keys -/

structure VirtualKeyState where
  id : String
  name : String
  description : String
  isActive : Bool
  provider : String
  model : String
  deriving DecidableEq, Repr

/-- A virtual key with its value. Bifrost keeps keys in this form too. -/
structure VirtualKeyCreationResult where
  state : VirtualKeyState
  value : String
  deriving DecidableEq, Repr

abbrev VirtualKeys := List VirtualKeyCreationResult

/-- The keys that carry a name. -/
def VirtualKeys.named (keys : VirtualKeys) (name : String) : VirtualKeys :=
  keys.filter fun key => key.state.name = name

/-- Rewrite the state of the key with an identifier. -/
def VirtualKeys.change (keys : VirtualKeys) (virtualKeyId : String)
    (change : VirtualKeyState → VirtualKeyState) : VirtualKeys :=
  keys.map fun key =>
    if key.state.id = virtualKeyId then { key with state := change key.state } else key

def VirtualKeys.withId (keys : VirtualKeys) (virtualKeyId : String) :
    Option VirtualKeyCreationResult :=
  keys.find? fun key => key.state.id = virtualKeyId

/-! ## Requests -/

inductive Request where
  | find (name : String)
  | create (spec : VirtualKeySpec)
  | material (virtualKeyId : String)
  | update (virtualKeyId : String) (spec : VirtualKeySpec)
  | disable (virtualKeyId : String)
  deriving DecidableEq, Repr

/-- What a request returns. -/
abbrev Request.Reply : Request → Type
  | .find _ => Option VirtualKeyCreationResult
  | .create _ | .material _ => VirtualKeyCreationResult
  | .update _ _ | .disable _ => VirtualKeyState

def virtualKeyIdCharacter (character : Char) : Bool :=
  character.isAlphanum || character = '.' || character = '_' || character = '-'

/-- `VIRTUAL_KEY_ID_RE`. -/
def validVirtualKeyId (virtualKeyId : String) : Bool :=
  decide (1 ≤ virtualKeyId.toList.length ∧ virtualKeyId.toList.length ≤ 128) &&
    virtualKeyId.toList.all virtualKeyIdCharacter

/-- `_validate_virtual_key_id`, for the requests that name a key by identifier. -/
def Request.check : Request → Except ModelError Unit
  | .find _ | .create _ => return ()
  | .material virtualKeyId | .update virtualKeyId _ | .disable virtualKeyId =>
      require (validVirtualKeyId virtualKeyId = true) (.valueError "invalid virtual-key ID")

/-! ## Bifrost -/

/-- What Bifrost draws for a new key. -/
structure Minted where
  id : String
  value : String
  deriving DecidableEq, Repr

def createdKey (spec : VirtualKeySpec) (minted : Minted) : VirtualKeyCreationResult where
  state := {
    id := minted.id
    name := spec.name
    description := spec.description
    isActive := true
    provider := spec.provider
    model := spec.model }
  value := minted.value

/-- `update_virtual_key` leaves `is_active` out of its payload. -/
def updatedState (spec : VirtualKeySpec) (state : VirtualKeyState) : VirtualKeyState :=
  { state with
    name := spec.name
    description := spec.description
    provider := spec.provider
    model := spec.model }

def disabledState (state : VirtualKeyState) : VirtualKeyState :=
  { state with isActive := false }

/-- `find_virtual_key_by_name` on the keys the search returned. -/
def findVirtualKeyByName (keys : VirtualKeys) (name : String) :
    Except BifrostUpstreamError (Option VirtualKeyCreationResult) :=
  match keys.named name with
  | [] => .ok none
  | [key] => .ok (some key)
  | _ => .error bifrostProtocolError

/-- Change the key with an identifier and return its new state. -/
def VirtualKeys.changeKey (keys : VirtualKeys) (virtualKeyId : String)
    (change : VirtualKeyState → VirtualKeyState) :
    VirtualKeys × Except BifrostUpstreamError VirtualKeyState :=
  match keys.withId virtualKeyId with
  | none => (keys, .error bifrostMissing)
  | some key => (keys.change virtualKeyId change, .ok (change key.state))

/-- One request served. A new key gets an identifier no other key has. -/
def serve (keys : VirtualKeys) (minted : Minted) :
    (request : Request) → Option (VirtualKeys × Except BifrostUpstreamError request.Reply)
  | .find name => some (keys, findVirtualKeyByName keys name)
  | .create spec =>
      if validVirtualKeyId minted.id = true ∧ keys.withId minted.id = none then
        some (keys ++ [createdKey spec minted], .ok (createdKey spec minted))
      else none
  | .material virtualKeyId => some (keys,
      match keys.withId virtualKeyId with
      | none => .error bifrostMissing
      | some key => .ok key)
  | .update virtualKeyId spec => some (keys.changeKey virtualKeyId (updatedState spec))
  | .disable virtualKeyId => some (keys.changeKey virtualKeyId disabledState)

/-! ## What stays of a key -/

/-- What only an update changes of a key. -/
structure Identity where
  id : String
  name : String
  value : String
  deriving DecidableEq, Repr

def identity (key : VirtualKeyCreationResult) : Identity :=
  ⟨key.state.id, key.state.name, key.value⟩

def Request.isUpdate : Request → Bool
  | .update _ _ => true
  | _ => false

/-- A request that asks for a new key with a name. -/
def creates (name : String) : Request → Bool
  | .create spec => spec.name = name
  | _ => false

theorem VirtualKeys.mem_named {keys : VirtualKeys} {name : String}
    {key : VirtualKeyCreationResult} :
    key ∈ keys.named name ↔ key ∈ keys ∧ key.state.name = name := by
  simp [VirtualKeys.named]

theorem VirtualKeys.length_named (keys : VirtualKeys) (name : String) :
    (keys.named name).length = (keys.map identity).countP fun known => known.name = name := by
  rw [List.countP_map, List.countP_eq_length_filter]
  rfl

/-- The key that a search found. -/
theorem findVirtualKeyByName_some {keys : VirtualKeys} {name : String}
    {key : VirtualKeyCreationResult} (found : findVirtualKeyByName keys name = .ok (some key)) :
    key ∈ keys ∧ key.state.name = name := by
  unfold findVirtualKeyByName at found
  split at found
  · cases found
  · rename_i only alone
    cases found
    exact VirtualKeys.mem_named.mp (by rw [alone]; exact List.mem_singleton_self _)
  · cases found

theorem findVirtualKeyByName_none {keys : VirtualKeys} {name : String}
    (missing : findVirtualKeyByName keys name = .ok none) : keys.named name = [] := by
  unfold findVirtualKeyByName at missing
  split at missing
  · assumption
  · cases missing
  · cases missing

theorem VirtualKeys.withId_some {keys : VirtualKeys} {virtualKeyId : String}
    {key : VirtualKeyCreationResult} (found : keys.withId virtualKeyId = some key) :
    key ∈ keys ∧ key.state.id = virtualKeyId :=
  ⟨List.mem_of_find?_eq_some found, by simpa using List.find?_some found⟩

/-- Disabling a key keeps every identity. -/
theorem VirtualKeys.identities_changeKey (keys : VirtualKeys) (virtualKeyId : String) :
    (keys.changeKey virtualKeyId disabledState).1.map identity = keys.map identity := by
  unfold VirtualKeys.changeKey
  split
  · rfl
  · rw [VirtualKeys.change, List.map_map]
    refine List.map_congr_left fun key _ => ?_
    simp only [Function.comp_apply]
    split <;> rfl

/-- A creation that is served. -/
theorem serve_create {keys after : VirtualKeys} {minted : Minted} {spec : VirtualKeySpec}
    {reply : Except BifrostUpstreamError VirtualKeyCreationResult}
    (served : serve keys minted (.create spec) = some (after, reply)) :
    keys.withId minted.id = none ∧ after = keys ++ [createdKey spec minted] ∧
      reply = .ok (createdKey spec minted) := by
  simp only [serve] at served
  split at served
  · rename_i fresh
    cases served
    exact ⟨fresh.2, rfl, rfl⟩
  · cases served

/-- The identities after a request that is no update: a creation adds one. -/
theorem serve_identities {keys after : VirtualKeys} {minted : Minted} {request : Request}
    {reply : Except BifrostUpstreamError request.Reply} (notUpdate : request.isUpdate = false)
    (served : serve keys minted request = some (after, reply)) :
    after.map identity = keys.map identity ∧ (∀ name, creates name request = false) ∨
      ∃ spec, request = .create spec ∧
        after.map identity = keys.map identity ++ [⟨minted.id, spec.name, minted.value⟩] := by
  cases request with
  | find name | material virtualKeyId =>
      cases served
      exact Or.inl ⟨rfl, fun _ => rfl⟩
  | create spec =>
      obtain ⟨_, rfl, _⟩ := serve_create served
      exact Or.inr ⟨spec, rfl, by rw [List.map_append]; rfl⟩
  | update virtualKeyId spec => cases notUpdate
  | disable virtualKeyId =>
      have moved : (keys.changeKey virtualKeyId disabledState).1 = after :=
        congrArg Prod.fst (Option.some.inj served)
      exact Or.inl ⟨moved ▸ VirtualKeys.identities_changeKey keys virtualKeyId, fun _ => rfl⟩

/-- A key and one in flight: serving a request keeps their number. -/
theorem serve_named_creating {keys after : VirtualKeys} {minted : Minted} {request : Request}
    {reply : Except BifrostUpstreamError request.Reply} (notUpdate : request.isUpdate = false)
    (served : serve keys minted request = some (after, reply)) (name : String) :
    (after.named name).length =
      (keys.named name).length + if creates name request then 1 else 0 := by
  rw [VirtualKeys.length_named, VirtualKeys.length_named]
  rcases serve_identities notUpdate served with ⟨same, none⟩ | ⟨spec, rfl, added⟩
  · rw [same, none name]
    rfl
  · rw [added, List.countP_append]
    by_cases same : spec.name = name <;> simp [creates, same]

end Zangpu.Integrations.Bifrost
