import Courier.Proofs.Relocation
import Courier.Proofs.Vouching
import Mathlib.Data.List.Nodup

/-!
# One listing for a directory, one entry for a name

The cache is a list of listings, and a listing a list of entries. Nothing in their types keeps a
directory from being cached twice, a listing from standing under the path of another directory, or
a name from coming up twice in a listing. The calls do: storing forgets what was cached at the place
before, an update looks for the name before it adds an entry, and what is moved takes the place of
whatever had its new name. So as long as names come up once in the listings that are stored, they
do in those that are cached, and to look up a directory or a name is to find the only one.
-/

namespace Courier

/-! ## The names of a listing -/

namespace Entry

variable {name : String} {entries : List Entry}

/-- An update adds its name at the end where it was missing, and changes no other. -/
theorem names_update (name : String) (isDir : Bool) (freshness : Freshness)
    (entries : List Entry) :
    (update name isDir freshness entries).map Entry.name =
      if name ∈ entries.map Entry.name then entries.map Entry.name
      else entries.map Entry.name ++ [name] := by
  induction entries with
  | nil => rfl
  | cons entry rest ih =>
      by_cases here : entry.name = name
      · rw [update, if_pos here, List.map_cons, List.map_cons, here, if_pos List.mem_cons_self]
      · have missed : name ∈ entry.name :: rest.map Entry.name ↔ name ∈ rest.map Entry.name := by
          rw [List.mem_cons, or_iff_right (Ne.symm here)]
        rw [update, if_neg here, List.map_cons, List.map_cons, ih]
        by_cases later : name ∈ rest.map Entry.name
        · rw [if_pos later, if_pos (missed.2 later)]
        · rw [if_neg later, if_neg (mt missed.1 later), List.cons_append]

theorem nodup_names_update (distinct : (entries.map Entry.name).Nodup) (isDir : Bool)
    (freshness : Freshness) : ((update name isDir freshness entries).map Entry.name).Nodup := by
  rw [names_update]
  split
  · exact distinct
  · rename_i missing
    rw [← List.concat_eq_append]
    exact distinct.concat missing

end Entry

/-- Where no name comes up twice, the entry found under a name is the only one. -/
theorem Listing.named_eq_toList_find? {listing : Listing}
    (distinct : (listing.entries.map Entry.name).Nodup) (name : String) :
    listing.named name = (listing.find? name).toList := by
  unfold named find?
  generalize listing.entries = entries at distinct
  induction entries with
  | nil => rfl
  | cons entry rest ih =>
      obtain ⟨once, distinct⟩ := List.nodup_cons.1 distinct
      by_cases here : entry.name = name
      · have none_later : rest.filter (·.name = name) = [] := by
          refine List.filter_eq_nil_iff.2 fun later mem => ?_
          have other : later.name ≠ name := fun same =>
            once (here ▸ same ▸ List.mem_map_of_mem mem)
          simpa using other
        rw [List.filter_cons_of_pos (by simpa using here), none_later,
          List.find?_cons_of_pos (by simpa using here)]
        rfl
      · rw [List.filter_cons_of_neg (by simpa using here),
          List.find?_cons_of_neg (by simpa using here)]
        exact ih distinct

/-- What a listing is cached under. -/
def CacheSlot.place (slot : CacheSlot) : Server × RemotePath := (slot.server, slot.path)

namespace DirectoryCache

/-- Nothing is ambiguous in the cache. -/
structure IsOrderly (cache : DirectoryCache) : Prop where
  /-- A directory of a server is cached once at most. -/
  places : (cache.slots.map CacheSlot.place).Nodup
  /-- A listing stands under its own path. -/
  own : ∀ slot ∈ cache.slots, slot.listing.path = slot.path
  /-- No name comes up twice in a listing. -/
  names : ∀ slot ∈ cache.slots, (slot.listing.entries.map Entry.name).Nodup

variable {cache : DirectoryCache} {server : Server} {path : RemotePath} {listing : Listing}

/-- Whatever is cached under a place is found there. -/
theorem IsOrderly.lookup_eq_some_iff (orderly : cache.IsOrderly) :
    cache.lookup server path = some listing ↔ ⟨server, path, listing⟩ ∈ cache.slots := by
  constructor
  · intro cached
    obtain ⟨slot, found, rfl⟩ := Option.map_eq_some_iff.1 cached
    obtain ⟨rfl, rfl⟩ : slot.server = server ∧ slot.path = path := by
      simpa using List.find?_some found
    exact List.mem_of_find?_eq_some found
  · intro mem
    unfold lookup
    cases first : cache.slots.find? fun slot => slot.server = server ∧ slot.path = path with
    | none => simpa using List.find?_eq_none.1 first _ mem
    | some slot =>
        have here : slot.server = server ∧ slot.path = path := by
          simpa using List.find?_some first
        have same := List.inj_on_of_nodup_map orderly.places (List.mem_of_find?_eq_some first) mem
          (Prod.ext here.1 here.2)
        rw [same]
        rfl

/-! ## The two moves and storing -/

theorem IsOrderly.forget (orderly : cache.IsOrderly) (server : Server)
    (fits : RemotePath → Bool) : (cache.forget server fits).IsOrderly where
  places := orderly.places.sublist (List.filter_sublist.map _)
  own := fun slot mem => orderly.own slot (List.mem_of_mem_filter mem)
  names := fun slot mem => orderly.names slot (List.mem_of_mem_filter mem)

/-- A change that touches the entries alone, and leaves their names distinct, does no harm. -/
theorem IsOrderly.modify (orderly : cache.IsOrderly) (server : Server) (path : RemotePath)
    {change : List Entry → List Entry}
    (distinct : ∀ entries, (entries.map Entry.name).Nodup →
      ((change entries).map Entry.name).Nodup) :
    (cache.modify server path fun listing =>
      { listing with entries := change listing.entries }).IsOrderly := by
  refine ⟨?_, ?_, ?_⟩
  · have same : ((cache.modify server path fun listing =>
        { listing with entries := change listing.entries }).slots.map CacheSlot.place) =
        cache.slots.map CacheSlot.place := by
      show List.map _ (List.map _ _) = _
      rw [List.map_map]
      refine List.map_congr_left fun slot _ => ?_
      show CacheSlot.place (if _ then _ else _) = _
      split <;> rfl
    rw [same]
    exact orderly.places
  · intro slot mem
    obtain ⟨former, before, rfl⟩ := List.mem_map.1 mem
    split
    · exact orderly.own former before
    · exact orderly.own former before
  · intro slot mem
    obtain ⟨former, before, rfl⟩ := List.mem_map.1 mem
    split
    · exact distinct _ (orderly.names former before)
    · exact orderly.names former before

/-- What is stored takes the place of what was cached there. -/
theorem IsOrderly.store (orderly : cache.IsOrderly) (server : Server)
    (distinct : (listing.entries.map Entry.name).Nodup) :
    (cache.store server listing).IsOrderly := by
  have others := orderly.forget server (· == listing.path)
  refine ⟨List.nodup_cons.2 ⟨?_, others.places⟩, ?_, ?_⟩
  · intro again
    obtain ⟨slot, left, same⟩ := List.mem_map.1 again
    obtain ⟨here, there⟩ := Prod.mk.inj same
    have kept := (List.mem_filter.1 left).2
    simp [show slot.server = server from here, show slot.path = listing.path from there] at kept
  · intro slot mem
    rcases List.mem_cons.1 mem with rfl | left
    · rfl
    · exact others.own slot left
  · intro slot mem
    rcases List.mem_cons.1 mem with rfl | left
    · exact distinct
    · exact others.names slot left

/-! ## Calls -/

/-- Every call leaves an orderly cache orderly, if what it stores is. -/
theorem IsOrderly.perform (orderly : cache.IsOrderly) {call : Call}
    (distinct : ∀ server listing, call = .store server listing →
      (listing.entries.map Entry.name).Nodup) : (cache.perform call).2.IsOrderly := by
  cases call with
  | store server listing => exact orderly.store server (distinct server listing rfl)
  | lookup server path => exact orderly
  | updateEntry server path name isDir freshness =>
      exact orderly.modify server path fun _ once =>
        Entry.nodup_names_update once isDir freshness
  | removeEntry server path name =>
      exact orderly.modify server path fun _ once => (Entry.preserves_without once name).distinct
  | forgetDir server path => exact orderly.forget server (· == path)
  | removeDir server path subDir =>
      have removed := orderly.modify server path fun _ once =>
        (Entry.preserves_without once subDir).distinct
      exact removed.forget server _
  | rename server fromPath fromFile toPath toFile =>
      -- The entry leaves before it arrives, so both may be in one listing and under one name.
      have left := orderly.modify server fromPath fun _ once =>
        (Entry.preserves_withoutFirst once fromFile).distinct
      let moved := movedEntry ((cache.lookup server fromPath).bind (·.find? fromFile)) toFile
      have doubtful : moved.freshness ≠ .known := by rintro ⟨⟩
      have arrived := left.modify server toPath fun _ once =>
        (Entry.preserves_arrival once doubtful).distinct
      exact arrived.forget server _
  | forgetServer server => exact orderly.forget server fun _ => true

theorem IsOrderly.performAll (orderly : cache.IsOrderly) {calls : List Call}
    (distinct : ∀ server listing, .store server listing ∈ calls →
      (listing.entries.map Entry.name).Nodup) : (performAll calls cache).2.IsOrderly := by
  induction calls generalizing cache with
  | nil => exact orderly
  | cons call rest ih =>
      refine ih (orderly.perform ?_) fun server listing later =>
        distinct server listing (List.mem_cons_of_mem _ later)
      rintro server listing rfl
      exact distinct server listing List.mem_cons_self

/-- At every moment of every sequence of calls that stores listings with distinct names: a directory
of a server is cached once at most, and what is looked up is the listing cached there; each listing
has the path it is cached under; and an entry found in it under a name is the only one of that
name. -/
theorem cached_unambiguously {calls : List Call}
    (distinct : ∀ server listing, .store server listing ∈ calls →
      (listing.entries.map Entry.name).Nodup)
    {before : List Call} (moment : before <+: calls) :
    let cache := (DirectoryCache.performAll before {}).2
    cache.IsOrderly ∧ ∀ server path listing,
      (cache.lookup server path = some listing ↔ ⟨server, path, listing⟩ ∈ cache.slots) ∧
      (cache.lookup server path = some listing →
        listing.path = path ∧ (listing.entries.map Entry.name).Nodup ∧
          ∀ name, listing.named name = (listing.find? name).toList) := by
  intro cache
  have empty : IsOrderly {} :=
    ⟨List.nodup_nil, List.forall_mem_nil _, List.forall_mem_nil _⟩
  have orderly : cache.IsOrderly := empty.performAll fun server listing stored =>
    distinct server listing (moment.subset stored)
  refine ⟨orderly, fun server path listing => ⟨orderly.lookup_eq_some_iff, fun cached => ?_⟩⟩
  have mem := orderly.lookup_eq_some_iff.1 cached
  exact ⟨orderly.own _ mem, orderly.names _ mem,
    Listing.named_eq_toList_find? (orderly.names _ mem)⟩

/-- Entries that move within their directory, onto another name and onto their own, stay single. -/
theorem cached_unambiguously_moved :
    let home := RemotePath.ofString "/home"
    let calls : List Call :=
      [.store account ⟨home, [.dir "sub", .file "a" 1, .file "z" 2], 0⟩,
        .rename account home "sub" home "a", .rename account home "a" home "a",
        .updateEntry account home "a" true .known]
    ∃ listing, (DirectoryCache.performAll calls {}).2.lookup account home = some listing ∧
      listing.entries.map Entry.name = ["z", "a"] ∧
      listing.named "a" = (listing.find? "a").toList := by
  intro home calls
  have distinct : ∀ server listing, .store server listing ∈ calls →
      (listing.entries.map Entry.name).Nodup := by
    intro server listing stored
    obtain ⟨rfl, rfl⟩ : server = account ∧
        listing = ⟨home, [.dir "sub", .file "a" 1, .file "z" 2], 0⟩ := by
      simpa [calls] using stored
    decide
  have found : (DirectoryCache.performAll calls {}).2.lookup account home =
      some ⟨home, [.file "z" 2, ⟨"a", true, none, .known⟩], 0⟩ := by decide +kernel
  obtain ⟨-, looked⟩ := cached_unambiguously distinct List.prefix_rfl
  exact ⟨_, found, rfl, ((looked account home _).2 found).2.2 "a"⟩

end DirectoryCache

end Courier
