/-
The pages of the inspector list every actor once (`actors_listed`).

A page of actors is, by their ids, a page of the general kind
(`requestPages_ids`), so what holds of the ids is read off the library.
-/
import RivetKit.Drivers.FileSystem.Pages

namespace RivetKit.Drivers.FileSystem

open Js

-- ================================================================ one page

/-- The loop takes actors up to the limit. -/
theorem collectActors_eq {limit : Nat} (hlimit : limit ≠ 0)
    (itr : List ActorState) :
    ∀ {actors : List InspectedActor}, actors.length < limit →
      collectActors limit actors itr
        = actors ++ (itr.map transformActor).take (limit - actors.length) := by
  induction itr with
  | nil =>
      intro actors _
      simp [collectActors]
  | cons actor itr ih =>
      intro actors hlength
      unfold collectActors
      dsimp only
      have hroom : limit - actors.length
          = limit - (actors.length + 1) + 1 := by omega
      rw [List.map_cons, hroom, List.take_succ_cons]
      by_cases hfull : limit ≤ actors.length + 1
      · have hzero : limit - (actors.length + 1) = 0 := by omega
        rw [if_pos ⟨hlimit, by simpa using hfull⟩, hzero]
        simp
      · rw [if_neg (by simpa using fun _ => Nat.lt_of_not_le hfull),
          ih (by simpa using Nat.lt_of_not_le hfull)]
        simp

/-- The ids that the iterator yields. -/
theorem filterMap_ids {l : Listing} (hnamed : l.Named)
    (actorIds : List FileName) :
    (actorIds.filterMap l.state).map (fun state => state.actorId)
      = (actorIds.filter l.snapshot.readable).map FileName.text := by
  induction actorIds with
  | nil => rfl
  | cons id actorIds ih =>
      cases hstate : l.state id with
      | none =>
          have hread : l.snapshot.readable id = false := by
            simp [Listing.snapshot, hstate]
          rw [List.filterMap_cons_none hstate,
            List.filter_cons_of_neg (by simp [hread])]
          exact ih
      | some state =>
          have hread : l.snapshot.readable id = true := by
            simp [Listing.snapshot, hstate]
          have hid : state.actorId = id.text := by
            unfold Listing.state at hstate
            split at hstate
            · cases hstate
            · exact hnamed id state hstate
          rw [List.filterMap_cons_some hstate,
            List.filter_cons_of_pos hread, List.map_cons, List.map_cons, ih,
            hid]

/-- A page of `getAllActors`, by its ids. -/
theorem getAllActors_ids {l : Listing} (hnamed : l.Named)
    {limit : Nat} (hlimit : limit ≠ 0) (cursor : Option FileName) :
    (getAllActors l cursor limit).map InspectedActor.id
      = (Pages.page limit cursor l.snapshot).map FileName.text := by
  have hroom : ([] : List InspectedActor).length < limit :=
    Nat.pos_of_ne_zero hlimit
  unfold getAllActors
  rw [collectActors_eq hlimit _ hroom]
  have hids : ∀ states : List ActorState,
      (states.map transformActor).map InspectedActor.id
        = states.map fun state => state.actorId := by
    intro states
    rw [List.map_map]
    rfl
  rw [List.nil_append, List.length_nil, Nat.sub_zero, List.map_take, hids]
  unfold getActorsIterator Pages.page
  rw [filterMap_ids hnamed, List.map_take]
  rfl

/-- Of an actor that is listed the state has been loaded. -/
theorem mem_getAllActors {l : Listing} {limit : Nat} (hlimit : limit ≠ 0)
    {cursor : Option FileName} {actor : InspectedActor}
    (h : actor ∈ getAllActors l cursor limit) :
    ∃ id ∈ l.names, ∃ state, l.state id = some state
      ∧ actor = transformActor state := by
  have hroom : ([] : List InspectedActor).length < limit :=
    Nat.pos_of_ne_zero hlimit
  unfold getAllActors at h
  rw [collectActors_eq hlimit _ hroom, List.nil_append] at h
  obtain ⟨state, hstate, rfl⟩ := List.mem_map.1 (List.mem_of_mem_take h)
  obtain ⟨id, hid, hload⟩ := List.mem_filterMap.1 hstate
  exact ⟨id, Pages.mem_sorted.1 (List.mem_of_mem_drop hid), state, hload,
    rfl⟩

/-- What is listed has an id. -/
theorem ne_empty_of_readable {l : Listing} {id : FileName}
    (h : l.snapshot.readable id = true) : id.text ≠ "" := by
  intro hempty
  simp [Listing.snapshot, Listing.state, hempty] at h

-- ============================================================== all of them

/-- The response with a cursor that an earlier one has given. -/
theorem getActors_eq (l : Listing) {limit : Int} (hlimit : 0 < limit)
    {cursor : Option FileName} (hcursor : ∀ c ∈ cursor, c.text ≠ "") :
    getActors l (some limit) (cursor.map FileName.text)
      = .actors (getAllActors l cursor limit.toNat) := by
  unfold getActors
  dsimp only
  rw [if_neg (by omega)]
  cases cursor with
  | none => rfl
  | some c => simp [hcursor c rfl]

/-- The requests' pages, by their ids. -/
theorem requestPages_ids {limit : Int} (hlimit : 0 < limit)
    {listings : List Listing} :
    ∀ {cursor : Option FileName}, (∀ c ∈ cursor, c.text ≠ "") →
      (∀ l ∈ listings, l.Named) →
      (requestPages (some limit) (cursor.map FileName.text) listings).map
          (fun response => response.list.map InspectedActor.id)
        = (Pages.pages limit.toNat cursor
            (listings.map Listing.snapshot)).map
            fun page => page.map FileName.text := by
  have hpos : limit.toNat ≠ 0 := by omega
  induction listings with
  | nil =>
      intro cursor _ _
      rfl
  | cons l listings ih =>
      intro cursor hcursor hnamed
      have hids := getAllActors_ids (hnamed l List.mem_cons_self) hpos cursor
      have hnext : (ActorsResponse.actors
            (getAllActors l cursor limit.toNat)).cursor
              (cursor.map FileName.text)
          = (Pages.nextCursor cursor
              (Pages.page limit.toNat cursor l.snapshot)).map
              FileName.text := by
        have hlast := congrArg List.getLast? hids
        rw [List.getLast?_map, List.getLast?_map] at hlast
        unfold ActorsResponse.cursor Pages.nextCursor
        dsimp only
        cases hactors : (getAllActors l cursor limit.toNat).getLast? with
        | none =>
            rw [hactors] at hlast
            rw [Option.map_eq_none_iff.1 hlast.symm]
        | some actor =>
            rw [hactors] at hlast
            obtain ⟨id, hid, htext⟩ := Option.map_eq_some_iff.1 hlast.symm
            rw [hid]
            exact congrArg some htext.symm
      have hempty : ∀ c ∈ Pages.nextCursor cursor
          (Pages.page limit.toNat cursor l.snapshot), c.text ≠ "" := by
        intro c hc
        unfold Pages.nextCursor at hc
        cases hlast : (Pages.page limit.toNat cursor l.snapshot).getLast? with
        | none =>
            rw [hlast] at hc
            exact hcursor c hc
        | some last =>
            rw [hlast] at hc
            rw [← Option.mem_some_iff.1 hc]
            have hmem := List.mem_of_mem_take (List.mem_of_getLast? hlast)
            exact ne_empty_of_readable (List.mem_filter.1 hmem).2
      unfold requestPages
      rw [getActors_eq l hlimit hcursor]
      dsimp only
      rw [List.map_cons, hnext, ih hempty fun l' hl' =>
        hnamed l' (List.mem_cons_of_mem _ hl'), List.map_cons, Pages.pages,
        List.map_cons]
      exact congrArg (· :: _) hids

/-- What a page lists is of its listing. -/
theorem mem_requestPages {limit : Int} (hlimit : 0 < limit)
    {listings : List Listing} :
    ∀ {cursor : Option String} {response : ActorsResponse},
      response ∈ requestPages (some limit) cursor listings →
      ∀ actor ∈ response.list, ∃ l ∈ listings, ∃ id ∈ l.names,
        ∃ state, l.state id = some state ∧ actor = transformActor state := by
  have hpos : limit.toNat ≠ 0 := by omega
  induction listings with
  | nil =>
      intro cursor response h
      cases h
  | cons l listings ih =>
      intro cursor response h actor hactor
      rcases List.mem_cons.1 h with rfl | h
      · unfold getActors at hactor
        dsimp only at hactor
        rw [if_neg (by omega)] at hactor
        obtain ⟨id, hid, hstate⟩ := mem_getAllActors hpos hactor
        exact ⟨l, List.mem_cons_self, id, hid, hstate⟩
      · obtain ⟨l', hl', hrest⟩ := ih h actor hactor
        exact ⟨l', List.mem_cons_of_mem _ hl', hrest⟩

/-- What the responses list: actors of the listings, in order, so none of
them twice, and once a response has fewer than the limit, every actor that
was there at the first one and could be loaded each time. -/
structure Lists (limit : Int) (listings : List Listing)
    (responses : List ActorsResponse) : Prop where
  sound : ∀ response ∈ responses, ∀ actor ∈ response.list,
    ∃ l ∈ listings, ∃ id ∈ l.names, ∃ state,
      l.state id = some state ∧ actor = transformActor state
  ordered : (responses.flatMap fun response =>
    response.list.map fun actor => utf16 actor.id).Pairwise (· < ·)
  complete : (∃ response ∈ responses, response.list.length < limit) →
    ∀ first ∈ listings.head?, ∀ id ∈ first.names,
      (∀ l ∈ listings, (l.state id).isSome = true) →
      ∃ response ∈ responses, ∃ actor ∈ response.list, actor.id = id.text

/-- Files that are there at the first request are there at each. -/
theorem mem_names {listings : List Listing} (h : GrowingListings listings)
    {first : Listing} (hfirst : first ∈ listings.head?) {id : FileName}
    (hid : id ∈ first.names) : ∀ l ∈ listings, id ∈ l.names := by
  cases listings with
  | nil => cases hfirst
  | cons l listings =>
      have hl : l = first := Option.some.inj hfirst
      intro l' hl'
      rcases List.mem_cons.1 hl' with rfl | hl'
      · exact hl ▸ hid
      · exact (List.pairwise_cons.1 h).1 l' hl' id (hl ▸ hid)

/-- The ids of all responses, one page after the other. -/
theorem flatMap_ids {limit : Int} (hlimit : 0 < limit)
    {listings : List Listing} (hnamed : ∀ l ∈ listings, l.Named) :
    (requestPages (some limit) none listings).flatMap
        (fun response => response.list.map InspectedActor.id)
      = (Pages.pages limit.toNat none
          (listings.map Listing.snapshot)).flatten.map FileName.text := by
  have hids := @requestPages_ids limit hlimit listings none (by simp) hnamed
  rw [Option.map_none] at hids
  rw [List.flatMap_def, hids, List.map_flatten]

/-- A short response is a short page. -/
theorem short_page {limit : Int} (hlimit : 0 < limit)
    {listings : List Listing} (hnamed : ∀ l ∈ listings, l.Named)
    {response : ActorsResponse}
    (hmem : response ∈ requestPages (some limit) none listings)
    (hshort : response.list.length < limit) :
    ∃ page ∈ Pages.pages limit.toNat none
        (listings.map Listing.snapshot),
      page.length < limit.toNat := by
  have hids := @requestPages_ids limit hlimit listings none (by simp) hnamed
  rw [Option.map_none] at hids
  have himage := List.mem_map_of_mem
    (f := fun response : ActorsResponse =>
      response.list.map InspectedActor.id) hmem
  rw [hids] at himage
  obtain ⟨page, hpage, heq⟩ := List.mem_map.1 himage
  have hlength := congrArg List.length heq
  rw [List.length_map, List.length_map] at hlength
  exact ⟨page, hpage, by omega⟩

/-- The inspector's pages list each actor once. -/
theorem actors_listed {limit : Int} (hlimit : 0 < limit)
    {listings : List Listing} (hgrowing : GrowingListings listings)
    (hnamed : ∀ l ∈ listings, l.Named) :
    Lists limit listings (requestPages (some limit) none listings) := by
  have hflat := flatMap_ids hlimit hnamed
  have hsnapshots : Pages.Growing (listings.map Listing.snapshot) :=
    List.pairwise_map.2 hgrowing
  have hnone : ∀ s ∈ listings.map Listing.snapshot,
      ∀ c ∈ (none : Option FileName), c ∈ s.elements := by simp
  constructor
  · intro response hresponse
    exact mem_requestPages hlimit hresponse
  · have hsorted := (@Pages.pages_sorted _ _ limit.toNat _ none hsnapshots
      hnone).1
    have hunits : (requestPages (some limit) none listings).flatMap
          (fun response => response.list.map fun actor => utf16 actor.id)
        = (Pages.pages limit.toNat none
            (listings.map Listing.snapshot)).flatten.map
            fun name => utf16 name.text := by
      have h := congrArg (List.map utf16) hflat
      rw [List.map_flatMap, List.map_map] at h
      simp only [List.map_map] at h
      exact h
    rw [hunits]
    exact List.pairwise_map.2 hsorted
  · rintro ⟨response, hresponse, hshort⟩ first hfirst id hid hloads
    have hthere : ∀ s ∈ listings.map Listing.snapshot,
        id ∈ s.elements ∧ s.readable id = true := by
      intro s hs
      obtain ⟨l, hl, rfl⟩ := List.mem_map.1 hs
      exact ⟨mem_names hgrowing hfirst hid l hl, hloads l hl⟩
    have hlisted := Pages.mem_pages hsnapshots hnone hthere
      (fun c hc => by cases hc)
      (short_page hlimit hnamed hresponse hshort)
    have hid' := List.mem_map_of_mem (f := FileName.text) hlisted
    rw [← hflat] at hid'
    obtain ⟨response', hresponse', hactors⟩ := List.mem_flatMap.1 hid'
    obtain ⟨actor, hactor, htext⟩ := List.mem_map.1 hactors
    exact ⟨response', hresponse', actor, hactor, htext⟩

/-- A directory with the state files of some counters. -/
def stateFiles (names : List FileName) (h : names.Nodup) : Listing where
  actors := []
  stateDir := some names
  load id := some ⟨id.text, "counter", [], 0, []⟩
  distinct := ⟨List.nodup_nil, fun _ hnames => Option.some.inj hnames ▸ h⟩

def oneCounter : Listing := stateFiles [⟨"a"⟩] (by decide)

def twoCounters : Listing := stateFiles [⟨"a"⟩, ⟨"b"⟩] (by decide)

/-- A counter is added between two requests. -/
theorem actors_listed_two :
    Lists 1 [oneCounter, twoCounters, twoCounters]
        (requestPages (some 1) none [oneCounter, twoCounters, twoCounters])
      ∧ (requestPages (some 1) none
          [oneCounter, twoCounters, twoCounters]).map
            (fun response => response.list.map InspectedActor.id)
        = [["a"], ["b"], []] := by
  have hnamed : ∀ l ∈ [oneCounter, twoCounters, twoCounters], l.Named := by
    intro l hl id state hstate
    simp only [List.mem_cons, List.not_mem_nil, or_false] at hl
    rcases hl with rfl | rfl | rfl <;>
      exact congrArg ActorState.actorId (Option.some.inj hstate).symm
  refine ⟨actors_listed (by decide) (by unfold GrowingListings; decide)
    hnamed, ?_⟩
  have hone : Pages.sorted oneCounter.snapshot.elements = [⟨"a"⟩] :=
    List.mergeSort_of_pairwise (by decide)
  have htwo : Pages.sorted twoCounters.snapshot.elements
      = [⟨"a"⟩, ⟨"b"⟩] :=
    List.mergeSort_of_pairwise (by decide)
  have hids := @requestPages_ids 1 (by decide)
    [oneCounter, twoCounters, twoCounters] none (by simp) hnamed
  rw [Option.map_none] at hids
  rw [hids]
  simp only [List.map_cons, List.map_nil, Pages.pages, Pages.page,
    Pages.candidates, Pages.behind, hone, htwo]
  decide

end RivetKit.Drivers.FileSystem
