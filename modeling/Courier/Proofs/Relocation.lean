import Courier.Proofs.Ancestry
import Courier.Proofs.Separation

/-!
# Directories moved and removed in the cache

What the cache makes of a move and of the removal of a directory: which listings it forgets, and
what becomes of the entries of the others. A removal forgets the directory with everything below it,
and every entry of its name. A move forgets what is cached at or below the place the object comes
from, but nothing of what is cached at or below the place it goes to; and the listing it leaves
loses one entry, the first of its name.
-/

namespace Courier

/-- The entries of this name, in their order. -/
def Listing.named (listing : Listing) (name : String) : List Entry :=
  listing.entries.filter (·.name = name)

namespace Entry

/-! ## Entries left out -/

variable {name : String} {keep : Entry → Bool}

theorem without_eq (name : String) (entries : List Entry) :
    without name entries = entries.filter (·.name ≠ name) := by
  apply List.filter_congr
  intro entry _
  by_cases same : entry.name = name <;> simp [same]

theorem filter_without_of_ne (other : ∀ entry, keep entry = true → entry.name ≠ name)
    (entries : List Entry) : (without name entries).filter keep = entries.filter keep := by
  rw [without, List.filter_filter]
  apply List.filter_congr
  intro entry _
  cases kept : keep entry with
  | true => simp [other entry kept]
  | false => rfl

theorem filter_withoutFirst_of_ne (other : ∀ entry, keep entry = true → entry.name ≠ name)
    (entries : List Entry) : (withoutFirst name entries).filter keep = entries.filter keep := by
  induction entries with
  | nil => rfl
  | cons entry rest ih =>
      by_cases here : entry.name = name
      · have gone : ¬ keep entry = true := fun kept => other entry kept here
        rw [withoutFirst, if_pos here, List.filter_cons_of_neg gone]
      · rw [withoutFirst, if_neg here, List.filter_cons, List.filter_cons, ih]

theorem named_without (name : String) (entries : List Entry) :
    (without name entries).filter (·.name = name) = [] := by
  rw [without, List.filter_filter, List.filter_eq_nil_iff]
  simp

theorem named_withoutFirst (name : String) (entries : List Entry) :
    (withoutFirst name entries).filter (·.name = name) =
      (entries.filter (·.name = name)).tail := by
  induction entries with
  | nil => rfl
  | cons entry rest ih =>
      by_cases here : entry.name = name
      · rw [withoutFirst, if_pos here, List.filter_cons_of_pos (by simpa using here),
          List.tail_cons]
      · rw [withoutFirst, if_neg here, List.filter_cons_of_neg (by simpa using here),
          List.filter_cons_of_neg (by simpa using here), ih]

/-! ## Entries moved -/

/-- What arrives makes no difference to a choice of entries with other names. -/
theorem filter_arrival {arrived : Entry}
    (other : ∀ entry, keep entry = true → entry.name ≠ arrived.name) (entries : List Entry) :
    (without arrived.name entries ++ [arrived]).filter keep = entries.filter keep := by
  have gone : ¬ keep arrived = true := fun kept => other arrived kept rfl
  rw [List.filter_append, filter_without_of_ne other, List.filter_cons_of_neg gone,
    List.filter_nil, List.append_nil]

/-- The entries of `path` once `fromFile` has left `fromPath` and `arrived` stands in `toPath`. -/
def rearranged (fromPath : RemotePath) (fromFile : String) (toPath : RemotePath) (arrived : Entry)
    (path : RemotePath) (entries : List Entry) : List Entry :=
  let left := if fromPath = path then withoutFirst fromFile entries else entries
  if toPath = path then without arrived.name left ++ [arrived] else left

variable {fromPath toPath path : RemotePath} {fromFile : String} {arrived : Entry}

/-- The new name stands for what has arrived, and for nothing else. -/
theorem named_rearranged_arrived (fromPath : RemotePath) (fromFile : String) (toPath : RemotePath)
    (arrived : Entry) (entries : List Entry) :
    (rearranged fromPath fromFile toPath arrived toPath entries).filter (·.name = arrived.name) =
      [arrived] := by
  unfold rearranged
  rw [if_pos rfl, List.filter_append, named_without, List.nil_append,
    List.filter_cons_of_pos (by simp), List.filter_nil]

/-- Of the entries of the former name the first is gone. -/
theorem named_rearranged_left (changes : (toPath, arrived.name) ≠ (fromPath, fromFile))
    (entries : List Entry) :
    (rearranged fromPath fromFile toPath arrived fromPath entries).filter (·.name = fromFile) =
      (entries.filter (·.name = fromFile)).tail := by
  unfold rearranged
  rw [if_pos rfl]
  -- what arrives in the same directory has another name, so it is not among those counted
  by_cases stays : toPath = fromPath
  · have renamed : arrived.name ≠ fromFile := fun same => changes (by rw [stays, same])
    have other : ∀ entry : Entry, decide (entry.name = fromFile) = true →
        entry.name ≠ arrived.name := by
      intro entry is same
      exact renamed (same.symm.trans (of_decide_eq_true is))
    rw [if_pos stays, filter_arrival other, named_withoutFirst]
  · rw [if_neg stays, named_withoutFirst]

/-- All other entries are as they were, in the same order. -/
theorem filter_rearranged
    (spared : ∀ entry, keep entry = true → ¬(path = fromPath ∧ entry.name = fromFile) ∧
      ¬(path = toPath ∧ entry.name = arrived.name)) (entries : List Entry) :
    (rearranged fromPath fromFile toPath arrived path entries).filter keep =
      entries.filter keep := by
  have left : (if fromPath = path then withoutFirst fromFile entries else entries).filter keep =
      entries.filter keep := by
    split
    · rename_i leaves
      exact filter_withoutFirst_of_ne
        (fun entry kept same => (spared entry kept).1 ⟨leaves.symm, same⟩) entries
    · rfl
  unfold rearranged
  by_cases arrives : toPath = path
  · have other : ∀ entry, keep entry = true → entry.name ≠ arrived.name :=
      fun entry kept same => (spared entry kept).2 ⟨arrives.symm, same⟩
    rw [if_pos arrives, filter_arrival other, left]
  · rw [if_neg arrives, left]

end Entry

namespace DirectoryCache

variable (cache : DirectoryCache) {server : Server} {path fromPath toPath : RemotePath}
  {name fromFile toFile : String} {now : Listing}

/-- A call is not seen on another server. -/
theorem lookup_perform_of_ne (call : Call) (apart : call.server ≠ server) (path : RemotePath) :
    (cache.perform call).2.lookup server path = cache.lookup server path := by
  rw [← lookup_part, part_perform_of_ne cache apart, lookup_part]

/-! ## Moves -/

/-- What a move of `fromFile` in `fromPath` to `toFile` in `toPath` makes of a cache. -/
structure Moves (server : Server) (fromPath : RemotePath) (fromFile : String)
    (toPath : RemotePath) (toFile : String) (before after : DirectoryCache) : Prop where
  /-- What is cached at or below the former place is forgotten, and nothing else. -/
  cached : ∀ other path, (after.lookup other path).isSome = true ↔
    (before.lookup other path).isSome = true ∧
      ¬(other = server ∧ (fromPath.join fromFile).isAtOrAbove path = true)
  /-- The directory the object was in loses the first entry of its former name. -/
  left : (toPath, toFile) ≠ (fromPath, fromFile) → ∀ was now,
    before.lookup server fromPath = some was → after.lookup server fromPath = some now →
      now.named fromFile = (was.named fromFile).tail
  /-- The directory it is in has one entry of its new name, with kind and size of the former. -/
  arrived : ∀ now, after.lookup server toPath = some now →
    let former := (before.lookup server fromPath).bind (·.find? fromFile)
    now.named toFile =
      [⟨toFile, former.any (·.isDir), former.bind (·.size), .unknown⟩]
  /-- All other entries of both are as they were, in the same order. -/
  others : ∀ path was now,
    before.lookup server path = some was → after.lookup server path = some now →
      let spared := fun entry : Entry => decide (¬(path = fromPath ∧ entry.name = fromFile) ∧
        ¬(path = toPath ∧ entry.name = toFile))
      now.path = was.path ∧ now.fetched = was.fetched ∧
        now.entries.filter spared = was.entries.filter spared
  /-- All other listings are as they were. -/
  elsewhere : ∀ other path,
    ¬(other = server ∧ (path = fromPath ∨ path = toPath ∨
      (fromPath.join fromFile).isAtOrAbove path = true)) →
    after.lookup other path = before.lookup other path

theorem lookup_rename (server : Server) (fromPath : RemotePath) (fromFile : String)
    (toPath : RemotePath) (toFile : String) (path : RemotePath) :
    (cache.rename server fromPath fromFile toPath toFile).lookup server path =
      if (fromPath.join fromFile).isAtOrAbove path = true then none
      else (cache.lookup server path).map fun listing =>
        { listing with
          entries := Entry.rearranged fromPath fromFile toPath
            (movedEntry ((cache.lookup server fromPath).bind (·.find? fromFile)) toFile) path
            listing.entries } := by
  rw [rename, lookup_forget, lookup_modify, lookup_modify]
  unfold Entry.rearranged
  simp only [true_and]
  split
  · rfl
  · by_cases leaves : fromPath = path <;> by_cases arrives : toPath = path <;>
      simp [leaves, arrives, movedEntry, Function.comp_def]

theorem exists_of_lookup_rename
    (found : (cache.rename server fromPath fromFile toPath toFile).lookup server path = some now) :
    ∃ was, cache.lookup server path = some was ∧
      now = { was with
        entries := Entry.rearranged fromPath fromFile toPath
          (movedEntry ((cache.lookup server fromPath).bind (·.find? fromFile)) toFile) path
          was.entries } := by
  rw [lookup_rename] at found
  split at found
  · cases found
  · obtain ⟨was, before, rfl⟩ := Option.map_eq_some_iff.1 found
    exact ⟨was, before, rfl⟩

/-- What a move makes of the cache. -/
theorem moves_rename (server : Server) (fromPath : RemotePath) (fromFile : String)
    (toPath : RemotePath) (toFile : String) :
    Moves server fromPath fromFile toPath toFile cache
      (cache.rename server fromPath fromFile toPath toFile) := by
  have aside {other : Server} (apart : other ≠ server) (path : RemotePath) :
      (cache.rename server fromPath fromFile toPath toFile).lookup other path =
        cache.lookup other path :=
    cache.lookup_perform_of_ne (.rename server fromPath fromFile toPath toFile) (Ne.symm apart) path
  constructor
  · intro other path
    by_cases own : other = server
    · subst own
      rw [lookup_rename]
      split
      · rename_i gone
        simp [gone]
      · rename_i kept
        simp [kept]
    · simp [aside own, own]
  · intro changes was now before after
    obtain ⟨listing, cached, rfl⟩ := cache.exists_of_lookup_rename after
    obtain rfl := Option.some.inj (cached.symm.trans before)
    exact Entry.named_rearranged_left changes _
  · intro now after
    obtain ⟨was, -, rfl⟩ := cache.exists_of_lookup_rename after
    exact Entry.named_rearranged_arrived fromPath fromFile toPath (movedEntry _ toFile) _
  · intro path was now before after
    obtain ⟨listing, cached, rfl⟩ := cache.exists_of_lookup_rename after
    obtain rfl := Option.some.inj (cached.symm.trans before)
    refine ⟨rfl, rfl, Entry.filter_rearranged ?_ _⟩
    exact fun entry spared => of_decide_eq_true spared
  · intro other path spared
    by_cases own : other = server
    · subst own
      obtain ⟨leaves, arrives, kept⟩ : path ≠ fromPath ∧ path ≠ toPath ∧
          ¬ (fromPath.join fromFile).isAtOrAbove path = true := by
        simpa using spared
      rw [lookup_rename, if_neg kept]
      simp [Entry.rearranged, Ne.symm leaves, Ne.symm arrives]
    · exact aside own path

/-- What a move makes of the cache; and nothing of the former name is left in the listing of its
directory exactly if the name was there at most once, or the listing itself is forgotten. -/
theorem rename_leaves_iff (server : Server) (fromPath : RemotePath) (fromFile : String)
    (toPath : RemotePath) (toFile : String) :
    let after := cache.rename server fromPath fromFile toPath toFile
    Moves server fromPath fromFile toPath toFile cache after ∧
      ((toPath, toFile) ≠ (fromPath, fromFile) →
        ((∀ now, after.lookup server fromPath = some now →
            ∀ entry ∈ now.entries, entry.name ≠ fromFile) ↔
          ∀ was, cache.lookup server fromPath = some was →
            (fromPath.join fromFile).isAtOrAbove fromPath = true ∨
              (was.named fromFile).length ≤ 1)) := by
  intro after
  have moves : Moves server fromPath fromFile toPath toFile cache after :=
    cache.moves_rename server fromPath fromFile toPath toFile
  refine ⟨moves, fun changes => ?_⟩
  have unnamed (listing : Listing) : (∀ entry ∈ listing.entries, entry.name ≠ fromFile) ↔
      listing.named fromFile = [] := by
    simp [Listing.named]
  have single (entries : List Entry) : entries.tail = [] ↔ entries.length ≤ 1 := by
    rw [← List.length_eq_zero_iff, List.length_tail]
    omega
  constructor
  · intro all was before
    refine or_iff_not_imp_left.2 fun kept => ?_
    obtain ⟨now, found⟩ : ∃ now, after.lookup server fromPath = some now :=
      Option.isSome_iff_exists.1 ((moves.cached server fromPath).2
        ⟨by rw [before]; rfl, fun gone => kept gone.2⟩)
    rw [← single, ← moves.left changes was now before found]
    exact (unnamed now).1 (all now found)
  · intro once now found
    obtain ⟨cached, kept⟩ := (moves.cached server fromPath).1 (by rw [found]; rfl)
    obtain ⟨was, before⟩ := Option.isSome_iff_exists.1 cached
    rw [unnamed, moves.left changes was now before found, single]
    exact (once was before).resolve_left fun gone => kept ⟨rfl, gone⟩

/-- An account on a server. -/
def account : Server := .atDefaultPort .sftp "host" "user"

/-- A directory that is renamed within its own keeps its kind, and its former name is gone. -/
theorem rename_leaves_iff_within :
    let home := RemotePath.ofString "/home"
    let cache := ({} : DirectoryCache).store account ⟨home, [.dir "a", .dir "sub", .file "z" 1], 0⟩
    ∃ now, (cache.rename account home "sub" home "a").lookup account home = some now ∧
      now.named "sub" = [] ∧ now.named "a" = [⟨"a", true, none, .unknown⟩] ∧
        now.named "z" = [.file "z" 1] := by
  intro home cache
  obtain ⟨moves, -⟩ := rename_leaves_iff cache account home "sub" home "a"
  have found : (cache.rename account home "sub" home "a").lookup account home =
      some ⟨home, [.file "z" 1, ⟨"a", true, none, .unknown⟩], 0⟩ := by decide +kernel
  refine ⟨_, found, ?_, moves.arrived _ found, by decide⟩
  exact moves.left (by decide) ⟨home, [.dir "a", .dir "sub", .file "z" 1], 0⟩ _ (by decide) found

/-- Where a listing has the name twice, a second entry is left, known as before. -/
theorem rename_leaves_repeated :
    let source := RemotePath.ofString "/d"
    let target := RemotePath.ofString "/e"
    let cache := ({} : DirectoryCache).store account ⟨source, [.file "a" 1, .file "a" 2], 0⟩
    (target, "b") ≠ (source, "a") ∧
      ∃ now, (cache.rename account source "a" target "b").lookup account source = some now ∧
        ∃ entry ∈ now.entries, entry.name = "a" ∧ entry.freshness = .known := by
  intro source target cache
  refine ⟨by decide, ⟨source, [.file "a" 2], 0⟩, by decide +kernel, .file "a" 2, ?_, rfl, rfl⟩
  exact List.mem_singleton_self _

/-! ## What a move forgets -/

/-- After a move nothing is cached at or below the former place. At or below the new one nothing is
cached exactly if whatever was cached there was at or below the former place as well; all else that
was cached there still is, as it was. -/
theorem rename_forgets_iff (server : Server) (fromPath : RemotePath) (fromFile : String)
    (toPath : RemotePath) (toFile : String) :
    let source := fromPath.join fromFile
    let target := toPath.join toFile
    let after := cache.rename server fromPath fromFile toPath toFile
    (∀ path, source.isAtOrAbove path = true → after.lookup server path = none) ∧
      ((∀ path, target.isAtOrAbove path = true → after.lookup server path = none) ↔
        ∀ path, target.isAtOrAbove path = true → cache.lookup server path ≠ none →
          source.isAtOrAbove path = true) ∧
      ∀ path, target.isAtOrAbove path = true → ¬ source.isAtOrAbove path = true →
        path ≠ fromPath → path ≠ toPath →
        after.lookup server path = cache.lookup server path := by
  intro source target after
  have moves : Moves server fromPath fromFile toPath toFile cache after :=
    cache.moves_rename server fromPath fromFile toPath toFile
  have gone_iff (path : RemotePath) : after.lookup server path = none ↔
      (cache.lookup server path ≠ none → source.isAtOrAbove path = true) := by
    rw [← Option.not_isSome_iff_eq_none, moves.cached server path, ← Option.isSome_iff_ne_none]
    simp [source]
  refine ⟨?_, ?_, ?_⟩
  · intro path inside
    exact (gone_iff path).2 fun _ => inside
  · constructor
    · intro all path inside
      exact (gone_iff path).1 (all path inside)
    · intro all path inside
      exact (gone_iff path).2 (all path inside)
  · intro path _ outside leaves arrives
    refine moves.elsewhere server path ?_
    rintro ⟨-, is | is | inside⟩
    · exact leaves is
    · exact arrives is
    · exact outside inside

/-- A directory moved onto itself is forgotten with all that is cached below it. -/
theorem rename_forgets_iff_itself :
    let dir := RemotePath.ofString "/d"
    let inner := RemotePath.ofString "/d/b/c"
    let cache := (({} : DirectoryCache).store account ⟨dir, [.dir "b"], 0⟩).store account
      ⟨inner, [.file "x" 1], 0⟩
    (cache.lookup account inner).isSome = true ∧ ∀ path, (dir.join "b").isAtOrAbove path = true →
      (cache.rename account dir "b" dir "b").lookup account path = none := by
  intro dir inner cache
  obtain ⟨-, forgets, -⟩ := rename_forgets_iff cache account dir "b" dir "b"
  exact ⟨by decide +kernel, forgets.2 fun _ inside _ => inside⟩

/-- What was cached of a directory is still served when another one has taken its place. -/
theorem rename_keeps_replaced :
    let dir := RemotePath.ofString "/d"
    let inner := RemotePath.ofString "/d/b"
    let cache := (({} : DirectoryCache).store account ⟨dir, [.dir "a", .dir "b"], 0⟩).store account
      ⟨inner, [.file "x" 1], 0⟩
    (dir.join "b").isAtOrAbove inner = true ∧
      (cache.rename account dir "a" dir "b").lookup account inner =
        some ⟨inner, [.file "x" 1], 0⟩ := by
  decide +kernel

/-! ## Removals -/

theorem lookup_removeDir (server other : Server) (path : RemotePath) (name : String)
    (place : RemotePath) :
    (cache.removeDir server path name).lookup other place =
      if server = other ∧ (path.join name).isAtOrAbove place = true then none
      else if server = other ∧ path = place then
        (cache.lookup other place).map fun listing =>
          { listing with entries := listing.entries.filter (·.name ≠ name) }
      else cache.lookup other place := by
  rw [removeDir, lookup_forget, removeEntry, lookup_modify]
  simp only [Entry.without_eq]

/-- The removal of a directory forgets exactly what is cached at or below it, and takes its entries
out of the listing of its parent. Nothing else is changed; in particular, what is in another
directory of the same parent is not, whatever its name begins with. -/
theorem removeDir_forgets (server : Server) (specified : path.isUnspecified = false)
    (plain : IsPlainName name) :
    let dir := path.join name
    let after := cache.removeDir server path name
    dir.parent? = some path ∧ dir.lastName? = some name ∧
      (∀ place, (after.lookup server place).isSome = true ↔
        (cache.lookup server place).isSome = true ∧ ¬ dir.Contains place) ∧
      after.lookup server path = (cache.lookup server path).map (fun listing =>
        { listing with entries := listing.entries.filter (·.name ≠ name) }) ∧
      (∀ other place, ¬(other = server ∧ (place = path ∨ dir.Contains place)) →
        after.lookup other place = cache.lookup other place) ∧
      ∀ sibling : RemotePath, sibling.parent? = some path → sibling.lastName? ≠ some name →
        ∀ place, sibling.Contains place →
          after.lookup server place = cache.lookup server place := by
  intro dir after
  obtain ⟨parent, last⟩ := RemotePath.join_plain specified plain
  have inside (place : RemotePath) := RemotePath.isAtOrAbove_iff
    (RemotePath.join_isUnspecified specified name) place
  have seen (other : Server) (place : RemotePath) :=
    cache.lookup_removeDir server other path name place
  have elsewhere (other : Server) (place : RemotePath)
      (aside : ¬(other = server ∧ (place = path ∨ (path.join name).Contains place))) :
      after.lookup other place = cache.lookup other place := by
    refine (seen other place).trans ?_
    rw [if_neg, if_neg]
    · rintro ⟨rfl, rfl⟩
      exact aside ⟨rfl, .inl rfl⟩
    · rintro ⟨rfl, gone⟩
      exact aside ⟨rfl, .inr ((inside place).1 gone)⟩
  refine ⟨parent, last, ?_, ?_, elsewhere, ?_⟩
  · intro place
    show ((cache.removeDir server path name).lookup server place).isSome = true ↔ _
    rw [seen, ← inside]
    by_cases gone : (path.join name).isAtOrAbove place = true
    · simp [gone]
    · rw [if_neg fun forgotten => gone forgotten.2]
      split <;> simp [gone]
  · have kept : ¬ (path.join name).isAtOrAbove path = true :=
      fun gone => RemotePath.not_contains_parent parent ((inside path).1 gone)
    refine (seen server path).trans ?_
    rw [if_neg (fun gone => kept gone.2), if_pos ⟨rfl, rfl⟩]
  · intro sibling same other place contains
    refine elsewhere server place ?_
    rintro ⟨-, rfl | gone⟩
    · exact RemotePath.not_contains_parent same contains
    · have is := RemotePath.Contains.eq_of_parent? same parent contains gone
      exact other (is ▸ last)

/-- A directory is forgotten with what is below it, and not the one whose name is longer. -/
theorem removeDir_forgets_below :
    let home := RemotePath.ofString "/home"
    let deep := RemotePath.ofString "/home/sub/deep"
    let longer := RemotePath.ofString "/home/subway"
    let cache := ((({} : DirectoryCache).store account ⟨home, [.dir "sub", .dir "subway"], 0⟩).store
      account ⟨deep, [.file "x" 1], 0⟩).store account ⟨longer, [.file "y" 2], 0⟩
    let after := cache.removeDir account home "sub"
    home.isUnspecified = false ∧ IsPlainName "sub" ∧ after.lookup account deep = none ∧
      after.lookup account home = some ⟨home, [.dir "subway"], 0⟩ ∧
      after.lookup account longer = some ⟨longer, [.file "y" 2], 0⟩ := by
  intro home deep longer cache after
  have specified : home.isUnspecified = false := by decide
  have plain : IsPlainName "sub" := by decide
  obtain ⟨-, -, cached, left, -, siblings⟩ :=
    removeDir_forgets cache account specified plain
  refine ⟨specified, plain, ?_, left.trans (by decide +kernel),
    (siblings longer (by decide) (by decide) longer .self).trans (by decide +kernel)⟩
  have inside : (home.join "sub").Contains deep := .child (by decide) .self
  rw [← Option.not_isSome_iff_eq_none, cached]
  exact fun still => still.2 inside

end DirectoryCache

end Courier
