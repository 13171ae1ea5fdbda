/-
Listing the actors of the file-system driver in pages
(`getActorsIterator` of drivers/file-system/global-state.ts, `getAllActors`
of drivers/file-system/manager.ts, `/actors` of inspector/manager.ts).

A page reads the directory of state files once, when it begins, and loads
one state after another; a state that cannot be loaded is left out. Which
can is a function of the page, since a page loads each at most once. The
order is that of `sort()`.
-/
import RivetKit.Drivers.FileSystem.StartActor
import RivetKit.Lib.CursorPages
import RivetKit.Lib.Text

namespace RivetKit.Drivers.FileSystem

open Js

-- =========================================================== the directory

/-- The name of a state file, or the id of an entry. -/
structure FileName where
  text : String
  deriving DecidableEq

/-- File names in the order of `sort()`. -/
instance : LinearOrder FileName :=
  LinearOrder.lift' (fun name => utf16 name.text) fun a b h => by
    cases a
    cases b
    rw [FileName.mk.injEq]
    exact utf16_injective h

/-- `text.includes(pattern)`. -/
def includes (pattern : List Char) : List Char → Bool
  | [] => pattern.isEmpty
  | c :: cs => pattern.isPrefixOf (c :: cs) || includes pattern cs

/-- What a page finds: the keys of the map of actors, the state directory
if it exists, and what `loadActorStateOrError` gives. -/
structure Listing where
  actors : List FileName
  stateDir : Option (List FileName)
  load : FileName → Option ActorState
  distinct : actors.Nodup ∧ ∀ names ∈ stateDir, names.Nodup

/-- `id.includes(".tmp")`. -/
def FileName.isTemporary (name : FileName) : Bool :=
  includes ".tmp".toList name.text.toList

/-- `actorIds` of `getActorsIterator`, before it is sorted. -/
def Listing.names (l : Listing) : List FileName :=
  match l.stateDir with
  | some names => names.filter fun id => !id.isTemporary
  | none => l.actors

theorem Listing.nodup_names (l : Listing) : l.names.Nodup := by
  unfold names
  cases hdir : l.stateDir with
  | none => exact l.distinct.1
  | some names => exact (l.distinct.2 names hdir).filter _

/-- `getActorsIterator` in its loop: the state of an id, unless the id is
empty or the state cannot be loaded. -/
def Listing.state (l : Listing) (actorId : FileName) : Option ActorState :=
  if actorId.text = "" then none else l.load actorId

/-- The listing as a snapshot of a growing collection. -/
def Listing.snapshot (l : Listing) : Pages.Snapshot FileName where
  elements := l.names
  distinct := l.nodup_names
  readable id := (l.state id).isSome

-- ================================================================ one page

/-- `Actor` of the inspector, its features and the start of the manager
apart. -/
structure InspectedActor where
  id : String
  name : String
  key : List String
  createdAt : Nat
  deriving DecidableEq

/-- `transformActor`. -/
def transformActor (actorState : ActorState) : InspectedActor where
  id := actorState.actorId
  name := actorState.name
  key := actorState.key
  createdAt := actorState.createdAt

/-- `getActorsIterator`. -/
def getActorsIterator (l : Listing) (cursor : Option FileName) :
    List ActorState :=
  let actorIds := Pages.sorted l.names
  (actorIds.drop (Pages.startIndex cursor actorIds)).filterMap l.state

/-- The loop of `getAllActors`. -/
def collectActors (limit : Nat) :
    List InspectedActor → List ActorState → List InspectedActor
  | actors, [] => actors
  | actors, actor :: itr =>
      let actors := actors ++ [transformActor actor]
      if limit ≠ 0 ∧ limit ≤ actors.length then actors
      else collectActors limit actors itr

/-- `getAllActors`. -/
def getAllActors (l : Listing) (cursor : Option FileName) (limit : Nat) :
    List InspectedActor :=
  collectActors limit [] (getActorsIterator l cursor)

/-- A response of `/actors`. -/
inductive ActorsResponse
  | invalidLimit
  | actors (actors : List InspectedActor)
  deriving DecidableEq

/-- `/actors`. `limit` is what `Number.parseInt` makes of the parameter, or
nothing. -/
def getActors (l : Listing) (limit : Option Int) (cursor : Option String) :
    ActorsResponse :=
  match limit with
  | none => .invalidLimit
  | some limit =>
      if limit ≤ 0 then .invalidLimit
      else
        let cursor := match cursor with
          | some s => if s = "" then none else some ⟨s⟩
          | none => none
        .actors (getAllActors l cursor limit.toNat)

-- ============================================================== all of them

/-- The cursor behind a response: the id of its last actor. -/
def ActorsResponse.cursor (response : ActorsResponse)
    (cursor : Option String) : Option String :=
  match response with
  | .invalidLimit => cursor
  | .actors found =>
      match found.getLast? with
      | some actor => some actor.id
      | none => cursor

/-- The actors of a response. -/
def ActorsResponse.list : ActorsResponse → List InspectedActor
  | .invalidLimit => []
  | .actors found => found

/-- One request after another, each with the cursor behind the one before,
and each finding another listing. -/
def requestPages (limit : Option Int) :
    Option String → List Listing → List ActorsResponse
  | _, [] => []
  | cursor, l :: listings =>
      let response := getActors l limit cursor
      response :: requestPages limit (response.cursor cursor) listings

/-- A state file has the state of the actor that it is named after. -/
def Listing.Named (l : Listing) : Prop :=
  ∀ id state, l.load id = some state → state.actorId = id.text

/-- State files are not removed. -/
def GrowingListings (listings : List Listing) : Prop :=
  listings.Pairwise fun l l' => ∀ id ∈ l.names, id ∈ l'.names

end RivetKit.Drivers.FileSystem
