import Courier.Proofs.Bookkeeping

/-!
# What known entries are worth

An entry is known if the server listed it so and nothing has been done about it since. Storing a
listing is the only way for an entry to become known. Every other change of the cache keeps some of
the entries that are known, and none that the change is about; so whoever finds a known entry can
look up in the journal where it came from, and that nothing was sent about it afterwards.
-/

namespace Courier

/-! ## What a change leaves known -/

/-- From `before` to `after` no name came up twice, and what is known was known before and is
untouched. -/
structure Entry.Preserves (touched : String → Prop) (before after : List Entry) : Prop where
  distinct : (after.map Entry.name).Nodup
  known : ∀ entry ∈ after, entry.freshness = .known → entry ∈ before ∧ ¬touched entry.name

namespace Entry

variable {touched others : String → Prop} {before middle after entries : List Entry} {name : String}

theorem Preserves.refl (distinct : (entries.map Entry.name).Nodup) :
    Preserves (fun _ => False) entries entries :=
  ⟨distinct, fun _ mem _ => ⟨mem, id⟩⟩

theorem Preserves.trans (first : Preserves touched before middle)
    (second : Preserves others middle after) :
    Preserves (fun name => touched name ∨ others name) before after := by
  refine ⟨second.distinct, ?_⟩
  intro entry mem known
  obtain ⟨between, untouched⟩ := second.known entry mem known
  obtain ⟨former, spared⟩ := first.known entry between known
  exact ⟨former, fun touched => touched.elim spared untouched⟩

theorem mem_names_update {isDir : Bool} {freshness : Freshness} {other : String}
    (h : other ∈ (update name isDir freshness entries).map Entry.name) :
    other = name ∨ other ∈ entries.map Entry.name := by
  induction entries with
  | nil => exact .inl (by simpa [update] using h)
  | cons entry rest ih =>
      by_cases here : entry.name = name
      · rw [update, if_pos here] at h
        exact .inr (by simpa using h)
      · rw [update, if_neg here, List.map_cons] at h
        rcases List.mem_cons.1 h with rfl | later
        · exact .inr (by simp)
        · rcases ih later with same | former
          · exact .inl same
          · exact .inr (List.mem_cons_of_mem _ former)

theorem preserves_update (distinct : (entries.map Entry.name).Nodup) (isDir : Bool)
    {freshness : Freshness} (doubtful : freshness ≠ .known) :
    Preserves (· = name) entries (update name isDir freshness entries) := by
  induction entries with
  | nil =>
      refine ⟨by simp [update], ?_⟩
      intro entry mem known
      obtain rfl : entry = ⟨name, isDir, none, freshness⟩ := by simpa [update] using mem
      exact absurd known doubtful
  | cons first rest ih =>
      obtain ⟨new, distinct⟩ := List.nodup_cons.1 distinct
      by_cases here : first.name = name
      · rw [update, if_pos here]
        refine ⟨List.nodup_cons.2 ⟨new, distinct⟩, ?_⟩
        intro entry mem known
        rcases List.mem_cons.1 mem with rfl | later
        · exact absurd known doubtful
        · refine ⟨List.mem_cons_of_mem _ later, ?_⟩
          rintro same
          exact new (by rw [here, ← same]; exact List.mem_map_of_mem later)
      · obtain ⟨others, unchanged⟩ := ih distinct
        rw [update, if_neg here]
        refine ⟨List.nodup_cons.2 ⟨?_, others⟩, ?_⟩
        · intro again
          rcases mem_names_update again with same | former
          · exact here same
          · exact new former
        · intro entry mem known
          rcases List.mem_cons.1 mem with rfl | later
          · exact ⟨List.mem_cons_self, here⟩
          · obtain ⟨former, untouched⟩ := unchanged entry later known
            exact ⟨List.mem_cons_of_mem _ former, untouched⟩

theorem preserves_without (distinct : (entries.map Entry.name).Nodup) (name : String) :
    Preserves (· = name) entries (without name entries) := by
  refine ⟨distinct.sublist (List.filter_sublist.map _), ?_⟩
  intro entry mem _
  obtain ⟨former, other⟩ := List.mem_filter.1 mem
  exact ⟨former, by simpa using other⟩

theorem withoutFirst_sublist (name : String) (entries : List Entry) :
    (withoutFirst name entries).Sublist entries := by
  induction entries with
  | nil => exact .refl _
  | cons entry rest ih =>
      unfold withoutFirst
      split
      · exact List.sublist_cons_self ..
      · exact ih.cons_cons entry

theorem preserves_withoutFirst (distinct : (entries.map Entry.name).Nodup) (name : String) :
    Preserves (· = name) entries (withoutFirst name entries) := by
  have fewer := withoutFirst_sublist name entries
  refine ⟨distinct.sublist (fewer.map _), fun entry mem _ => ⟨fewer.subset mem, ?_⟩⟩
  rintro rfl
  clear fewer
  induction entries with
  | nil => cases mem
  | cons first rest ih =>
      obtain ⟨new, distinct⟩ := List.nodup_cons.1 distinct
      unfold withoutFirst at mem
      split at mem
      · rename_i here
        exact new (here ▸ List.mem_map_of_mem mem)
      · rename_i other
        rcases List.mem_cons.1 mem with rfl | later
        · exact other rfl
        · exact ih distinct later

/-- What arrives under a name takes the place of whatever had it. -/
theorem preserves_arrival (distinct : (entries.map Entry.name).Nodup) {arrived : Entry}
    (doubtful : arrived.freshness ≠ .known) :
    Preserves (· = arrived.name) entries (without arrived.name entries ++ [arrived]) := by
  obtain ⟨others, unchanged⟩ := preserves_without distinct arrived.name
  refine ⟨?_, ?_⟩
  · rw [List.map_append, List.nodup_append]
    refine ⟨others, by simp, ?_⟩
    intro other mem last new same
    obtain ⟨entry, among, rfl⟩ := List.mem_map.1 mem
    obtain rfl : last = arrived.name := by simpa using new
    have left := (List.mem_filter.1 among).2
    simp [same] at left
  · intro entry mem known
    rcases List.mem_append.1 mem with former | new
    · exact unchanged entry former known
    · obtain rfl := List.mem_singleton.1 new
      exact absurd known doubtful

end Entry

namespace DirectoryCache

/-- From `before` to `after` no directory was added, and in each that is left the entries are
preserved but for those that were touched. -/
def Preserves (touched : Server → RemotePath → String → Prop) (before after : DirectoryCache) :
    Prop :=
  ∀ server path listing, after.lookup server path = some listing →
    ∃ former, before.lookup server path = some former ∧
      ((former.entries.map Entry.name).Nodup →
        Entry.Preserves (touched server path) former.entries listing.entries)

variable {touched others : Server → RemotePath → String → Prop}
  {before middle after : DirectoryCache}

theorem Preserves.trans (first : before.Preserves touched middle)
    (second : middle.Preserves others after) :
    before.Preserves (fun server path name => touched server path name ∨ others server path name)
      after := by
  intro server path listing cached
  obtain ⟨between, found, later⟩ := second server path listing cached
  obtain ⟨former, started, earlier⟩ := first server path between found
  refine ⟨former, started, fun distinct => ?_⟩
  have kept := earlier distinct
  exact kept.trans (later kept.distinct)

theorem Preserves.imp (preserves : before.Preserves touched after)
    (fewer : ∀ server path name, others server path name → touched server path name) :
    before.Preserves others after := by
  intro server path listing cached
  obtain ⟨former, found, kept⟩ := preserves server path listing cached
  refine ⟨former, found, fun distinct => ⟨(kept distinct).distinct, ?_⟩⟩
  intro entry mem known
  obtain ⟨was, untouched⟩ := (kept distinct).known entry mem known
  exact ⟨was, fun touched => untouched (fewer _ _ _ touched)⟩

theorem preserves_refl (cache : DirectoryCache) : cache.Preserves (fun _ _ _ => False) cache :=
  fun _ _ listing cached => ⟨listing, cached, .refl⟩

theorem preserves_modify (cache : DirectoryCache) (server : Server) (path : RemotePath)
    (change : List Entry → List Entry) {touched : String → Prop}
    (kept : ∀ entries, (entries.map Entry.name).Nodup →
      Entry.Preserves touched entries (change entries)) :
    cache.Preserves (fun other at_ name => server = other ∧ path = at_ ∧ touched name)
      (cache.modify server path fun listing =>
        { listing with entries := change listing.entries }) := by
  intro other at_ listing cached
  rw [lookup_modify] at cached
  by_cases here : server = other ∧ path = at_
  · rw [if_pos here] at cached
    obtain ⟨former, found, rfl⟩ := Option.map_eq_some_iff.1 cached
    refine ⟨former, found, fun distinct => ⟨(kept former.entries distinct).distinct, ?_⟩⟩
    intro entry mem known
    obtain ⟨was, untouched⟩ := (kept former.entries distinct).known entry mem known
    exact ⟨was, fun touched => untouched touched.2.2⟩
  · rw [if_neg here] at cached
    refine ⟨listing, cached, fun distinct => ⟨distinct, fun entry mem _ => ⟨mem, ?_⟩⟩⟩
    exact fun touched => here ⟨touched.1, touched.2.1⟩

theorem preserves_forget (cache : DirectoryCache) (server : Server) (fits : RemotePath → Bool) :
    cache.Preserves (fun other path _ => server = other ∧ fits path = true)
      (cache.forget server fits) := by
  intro other path listing cached
  rw [lookup_forget] at cached
  split at cached
  · cases cached
  · rename_i apart
    exact ⟨listing, cached, fun distinct => ⟨distinct, fun entry mem _ => ⟨mem, apart⟩⟩⟩

/-- Something becomes known by the call. -/
def Call.informs : Call → Bool
  | .store _ _ => true
  | .updateEntry _ _ _ _ freshness => freshness = .known
  | _ => false

/-- The call is about the entry of this name in the directory. -/
def Call.Touches (server : Server) (path : RemotePath) (name : String) : Call → Prop
  | .updateEntry known place entry _ _ | .removeEntry known place entry
  | .removeDir known place entry => known = server ∧ place = path ∧ name = entry
  | .rename known source entry target arrived =>
    known = server ∧ ((source = path ∧ name = entry) ∨ (target = path ∧ name = arrived))
  | .forgetServer known => known = server
  | .store _ _ | .lookup _ _ | .forgetDir _ _ => False

/-- Unless something becomes known by the call, what is known after it was known before, and the
call was not about it. -/
theorem preserves_perform (cache : DirectoryCache) {call : Call} (mute : call.informs = false) :
    cache.Preserves (fun server path name => call.Touches server path name)
      (cache.perform call).2 := by
  cases call with
  | store server listing => cases mute
  | lookup server path => exact cache.preserves_refl
  | updateEntry server path name isDir freshness =>
      have doubtful : freshness ≠ .known := by simpa [Call.informs] using mute
      exact cache.preserves_modify server path (Entry.update name isDir freshness)
        fun _ distinct => Entry.preserves_update distinct isDir doubtful
  | removeEntry server path name =>
      exact cache.preserves_modify server path (Entry.without name)
        fun _ distinct => Entry.preserves_without distinct name
  | forgetDir server path =>
      refine (cache.preserves_forget server (· == path)).imp ?_
      exact fun _ _ _ touched => touched.elim
  | removeDir server path subDir =>
      have removed := cache.preserves_modify server path (Entry.without subDir)
        fun _ distinct => Entry.preserves_without distinct subDir
      refine (removed.trans (preserves_forget _ server (path.join subDir).isAtOrAbove)).imp ?_
      exact fun _ _ _ touched => .inl touched
  | rename server fromPath fromFile toPath toFile =>
      let moved := movedEntry ((cache.lookup server fromPath).bind (·.find? fromFile)) toFile
      have doubtful : moved.freshness ≠ .known := by simp [moved, movedEntry]
      have left := cache.preserves_modify server fromPath (Entry.withoutFirst fromFile)
        fun _ distinct => Entry.preserves_withoutFirst distinct fromFile
      have arrived := left.trans (preserves_modify _ server toPath
        (fun entries => Entry.without toFile entries ++ [moved])
        fun _ distinct => Entry.preserves_arrival distinct doubtful)
      refine (arrived.trans (preserves_forget _ server
        (fromPath.join fromFile).isAtOrAbove)).imp ?_
      rintro known path name ⟨rfl, ⟨rfl, rfl⟩ | ⟨rfl, rfl⟩⟩
      · exact .inl (.inl ⟨rfl, rfl, rfl⟩)
      · exact .inl (.inr ⟨rfl, rfl, rfl⟩)
  | forgetServer server =>
      refine (cache.preserves_forget server fun _ => true).imp ?_
      exact fun _ _ _ touched => ⟨touched, rfl⟩

end DirectoryCache

/-! ## Where a known entry comes from -/

/-- The line is about the entry of this name in the directory, or may be about anything. -/
def WireLine.Touches (path : RemotePath) (name : String) : WireLine → Prop
  | put object | chmod _ object | remove object | removeDir object =>
    object.directory = path ∧ object.file = name
  | makeDir made => made.parent? = some path ∧ made.lastName? = some name
  | move source target => (source.directory = path ∧ source.file = name) ∨
    (target.directory = path ∧ target.file = name)
  | raw _ => True
  | changeDir _ | list | get _ => False

/-- No listing of the directory was stored in the time of `later`, which follows upon `earlier`,
and no line that touches the entry was sent to the server. -/
structure Spared (server : Server) (path : RemotePath) (name : String)
    (later earlier : List Happening) : Prop where
  latest : ∀ listing answer, .cached (.store server listing) answer ∈ later → listing.path ≠ path
  lines : ∀ newer line text answer older, later = newer ++ .sent line text answer :: older →
    Link.ofPast (older ++ earlier) = .up server → ¬line.Touches path name

/-- The server listed the entry, with this kind and size, when the listing of the directory that
was stored last was made, which went well; and nothing was sent since that is about it. -/
def Vouched (server : Server) (path : RemotePath) (entry : Entry) (past : List Happening) : Prop :=
  ∃ later listing answer entries result waits text before,
    past = later ++ .cached (.store server listing) answer :: .listingTaken (some entries) ::
      .completed result :: (waits ++ .sent .list text .wouldBlock :: before) ∧
    Link.ofPast before = .up server ∧ listing.path = path ∧ result.isError = false ∧
    (∀ happening ∈ waits, happening.isWait = true) ∧
    (∃ listed ∈ entries, listed.name = entry.name ∧ listed.isDir = entry.isDir ∧
      listed.size = entry.size) ∧
    Spared server path entry.name later (.cached (.store server listing) answer ::
      .listingTaken (some entries) :: .completed result ::
        (waits ++ .sent .list text .wouldBlock :: before))

section History

variable {server : Server} {path : RemotePath} {name : String} {entry : Entry} {line : WireLine}
  {happening : Happening} {past later earlier front announcements : List Happening}
  {call : DirectoryCache.Call} {answer : DirectoryCache.Answer} {cache : DirectoryCache}

theorem WireLine.isMutating_of_touches (touches : line.Touches path name) :
    line.isMutating = true := by
  cases line <;> first | rfl | exact touches.elim

/-- What the line is about is what the cache is told of. -/
theorem WireLine.touches_of_forecast? {forecast : Server → DirectoryCache.Call}
    (foretells : line.forecast? = some forecast) (touches : line.Touches path name)
    (server : Server) : (forecast server).Touches server path name := by
  cases line with
  | put object | chmod _ object | remove object | removeDir object =>
      cases foretells
      exact ⟨rfl, touches.1, touches.2.symm⟩
  | makeDir made =>
      obtain ⟨above, last⟩ := touches
      simp only [forecast?, above, last, Option.some.injEq] at foretells
      subst foretells
      exact ⟨rfl, rfl, rfl⟩
  | move source target =>
      cases foretells
      refine ⟨rfl, ?_⟩
      rcases touches with ⟨place, name⟩ | ⟨place, name⟩
      · exact .inl ⟨place, name.symm⟩
      · exact .inr ⟨place, name.symm⟩
  | raw text =>
      cases foretells
      exact rfl
  | changeDir made => cases foretells
  | list => cases foretells
  | get object => cases foretells

theorem WireLine.informs_of_forecast? {forecast : Server → DirectoryCache.Call}
    (foretells : line.forecast? = some forecast) (server : Server) :
    (forecast server).informs = false := by
  cases line with
  | makeDir made =>
      simp only [forecast?] at foretells
      split at foretells <;> cases foretells
      rfl
  | _ => cases foretells <;> rfl

theorem WireLine.informs_of_mem_doubts {doubt : Server → DirectoryCache.Call}
    (mem : doubt ∈ line.doubts) (server : Server) : (doubt server).informs = false := by
  cases line with
  | makeDir made =>
      simp only [doubts] at mem
      split at mem
      · obtain rfl := List.mem_singleton.1 mem
        rfl
      · cases mem
  | move source target =>
      rcases List.mem_cons.1 mem with rfl | mem
      · rfl
      · obtain rfl := List.mem_singleton.1 mem
        rfl
  | put object | chmod _ object | remove object | removeDir object =>
      obtain rfl := List.mem_singleton.1 mem
      rfl
  | raw text | changeDir made | list | get object => cases mem

theorem Spared.cons (spared : Spared server path name later earlier)
    (apart : ∀ listing answer, happening = .cached (.store server listing) answer →
      listing.path ≠ path)
    (harmless : ∀ line text answer, happening = .sent line text answer →
      Link.ofPast (later ++ earlier) = .up server → ¬line.Touches path name) :
    Spared server path name (happening :: later) earlier := by
  refine ⟨?_, ?_⟩
  · intro listing answer mem
    rcases List.mem_cons.1 mem with same | mem
    · exact apart listing answer same.symm
    · exact spared.latest listing answer mem
  · intro newer line text answer older split up
    cases newer with
    | nil =>
        obtain ⟨rfl, rfl⟩ := List.cons.inj split
        exact harmless line text answer rfl up
    | cons _ newer => exact spared.lines newer line text answer older (List.cons.inj split).2 up

theorem Vouched.cons (vouched : Vouched server path entry past)
    (apart : ∀ listing answer, happening = .cached (.store server listing) answer →
      listing.path ≠ path)
    (harmless : ∀ line text answer, happening = .sent line text answer →
      Link.ofPast past = .up server → ¬line.Touches path entry.name) :
    Vouched server path entry (happening :: past) := by
  obtain ⟨later, listing, answer, entries, result, waits, text, before, rfl, up, place, fine,
    waited, listed, spared⟩ := vouched
  exact ⟨happening :: later, listing, answer, entries, result, waits, text, before, rfl, up, place,
    fine, waited, listed, spared.cons apart harmless⟩

/-- A change that makes nothing known. -/
theorem Vouched.told (vouched : Vouched server path entry past) (mute : call.informs = false) :
    Vouched server path entry (.cached call answer :: past) := by
  refine vouched.cons ?_ ?_
  · rintro listing answer ⟨⟩
    cases mute
  · rintro line text answer ⟨⟩

theorem Vouched.plain (vouched : Vouched server path entry past)
    (plain : happening.isPlain = true) : Vouched server path entry (happening :: past) := by
  refine vouched.cons ?_ ?_
  · rintro listing answer rfl
    cases plain
  · rintro line text answer rfl up touches
    simp [Happening.isPlain, WireLine.isMutating_of_touches touches] at plain

theorem Vouched.plains (vouched : Vouched server path entry past)
    (all : ∀ happening ∈ front, happening.isPlain = true) :
    Vouched server path entry (front ++ past) := by
  induction front with
  | nil => exact vouched
  | cons happening rest ih =>
      obtain ⟨first, others⟩ := List.forall_mem_cons.1 all
      exact (ih others).plain first

/-! ## Along the journal -/

/-- The listing, which is cached, has distinct names, and its known entries are vouched for. -/
structure Listing.IsSound (server : Server) (path : RemotePath) (past : List Happening)
    (listing : Listing) : Prop where
  distinct : (listing.entries.map Entry.name).Nodup
  vouched : ∀ entry ∈ listing.entries, entry.freshness = .known →
    Vouched server path entry past

/-- All listings in the cache are sound. -/
def DirectoryCache.IsSound (past : List Happening) (cache : DirectoryCache) : Prop :=
  ∀ server path listing, cache.lookup server path = some listing →
    listing.IsSound server path past

namespace DirectoryCache.IsSound

/-- One more thing happened that is of no concern. -/
theorem plain (sound : cache.IsSound past) (plain : happening.isPlain = true) :
    cache.IsSound (happening :: past) := by
  intro server path listing cached
  obtain ⟨distinct, vouched⟩ := sound server path listing cached
  exact ⟨distinct, fun entry mem known => (vouched entry mem known).plain plain⟩

/-- The cache was told of something by which nothing becomes known. -/
theorem told (sound : cache.IsSound past) (mute : call.informs = false) :
    (cache.perform call).2.IsSound (.cached call answer :: past) := by
  intro server path listing cached
  obtain ⟨former, found, kept⟩ := cache.preserves_perform mute server path listing cached
  obtain ⟨distinct, vouched⟩ := sound server path former found
  refine ⟨(kept distinct).distinct, ?_⟩
  intro entry mem known
  obtain ⟨was, -⟩ := (kept distinct).known entry mem known
  exact (vouched entry was known).told mute

/-- A line was sent, of which the cache was told. -/
theorem sent {text : String} {reply : Reply} (sound : cache.IsSound past)
    (impends : line.Impends call past)
    (all : ∀ happening ∈ announcements, happening.isAnnouncement = true) :
    (cache.perform call).2.IsSound
      (.sent line text reply :: (announcements ++ .cached call answer :: past)) := by
  obtain ⟨ours, forecast, up, foretells, rfl⟩ := impends.forecast
  have mute := WireLine.informs_of_forecast? foretells ours
  intro server path listing cached
  obtain ⟨former, found, kept⟩ := cache.preserves_perform mute server path listing cached
  obtain ⟨distinct, vouched⟩ := sound server path former found
  refine ⟨(kept distinct).distinct, ?_⟩
  intro entry mem known
  obtain ⟨was, untouched⟩ := (kept distinct).known entry mem known
  have foretold : Vouched server path entry
      (announcements ++ .cached (forecast ours) answer :: past) := by
    refine ((vouched entry was known).told mute).plains ?_
    intro happening mem
    exact Happening.isPlain_of_isAnnouncement (all happening mem)
  refine foretold.cons (by rintro listing answer ⟨⟩) ?_
  rintro _ _ _ ⟨⟩ linked touches
  -- the line goes to the server the cache was told of
  obtain rfl : ours = server := by
    rw [Link.ofPast_asides fun happening mem =>
      Happening.isAside_of_isAnnouncement (all happening mem), Link.ofPast_cons, up] at linked
    exact Link.up.inj linked
  exact untouched (WireLine.touches_of_forecast? foretells touches ours)

/-- The cache was changed on occasion. -/
theorem change (sound : cache.IsSound past) (occasion : Occasion call past)
    (distinct : ∀ entries, .listingTaken (some entries) ∈ past →
      (entries.map Entry.name).Nodup) :
    (cache.perform call).2.IsSound (.cached call answer :: past) := by
  cases occasion with
  | discard => exact sound.told rfl
  | doubt _ _ _ doubted => exact sound.told (WireLine.informs_of_mem_doubts doubted _)
  | @store ours stored entries result text waits before request _ fine up waited received =>
      intro server path listing cached
      change (cache.store ours stored).lookup server path = some listing at cached
      rw [lookup_store] at cached
      split at cached
      · rename_i here
        obtain ⟨rfl, rfl⟩ := here
        obtain rfl := Option.some.inj cached
        refine ⟨?_, ?_⟩
        · rw [received, ListTask.fresh, List.map_map]
          exact distinct entries List.mem_cons_self
        · intro entry mem _
          rw [received] at mem
          obtain ⟨listed, among, rfl⟩ := List.mem_map.1 mem
          exact ⟨[], stored, answer, entries, result, waits, text, before, rfl, up, rfl, fine,
            waited, ⟨listed, among, rfl, rfl, rfl⟩, by simp, by simp⟩
      · rename_i apart
        obtain ⟨distinct, vouched⟩ := sound server path listing cached
        refine ⟨distinct, fun entry mem known => (vouched entry mem known).cons ?_ ?_⟩
        · rintro _ _ ⟨⟩ place
          exact apart ⟨rfl, place⟩
        · rintro _ _ _ ⟨⟩

end DirectoryCache.IsSound

/-- What the journal of an engine makes of an empty cache is sound. -/
theorem Chronicle.isSound (chronicle : Chronicle past)
    (distinct : ∀ entries, .listingTaken (some entries) ∈ past →
      (entries.map Entry.name).Nodup) : (({} : DirectoryCache).replay past).IsSound past := by
  induction chronicle with
  | nil =>
      intro server path listing cached
      simp at cached
  | @plain happening past plain _ ih =>
      rw [DirectoryCache.replay_cons, Happening.effect_of_isPlain plain]
      exact (ih fun entries mem => distinct entries (List.mem_cons_of_mem _ mem)).plain plain
  | @line line text reply announcements past call answer impends all _ ih =>
      rw [DirectoryCache.replay_cons]
      change (DirectoryCache.replay _ (announcements ++ _)).IsSound _
      rw [DirectoryCache.replay_plains fun happening mem =>
        Happening.isPlain_of_isAnnouncement (all happening mem)]
      refine DirectoryCache.IsSound.sent (ih fun entries mem => distinct entries ?_) impends all
      simp [mem]
  | change occasion _ ih =>
      have earlier := fun entries mem => distinct entries (List.mem_cons_of_mem _ mem)
      exact (ih earlier).change occasion earlier

end History

/-- The listing that was received. -/
def Happening.received? : Happening → Option (List Entry)
  | .listingTaken entries => entries
  | _ => none

namespace Engine

variable {τ : Type} [Transport τ] {good : Transport.States τ} {start engine : Engine τ Operation}

/-- In a run that begins with an empty cache nobody else uses, every known entry is as the server
listed it when its directory was last listed, and nothing was sent to the server since that is
about it. -/
theorem known_vouched (conforms : Transport.Conforms good) (new : start.IsFresh)
    (transport : good start.desk.transport) (empty : start.desk.cache = {})
    (run : RunFrom good (DriftsAlone good) start engine)
    (distinct : ∀ entries, .listingTaken (some entries) ∈ engine.desk.past →
      (entries.map Entry.name).Nodup)
    {server : Server} {path : RemotePath} {listing : Listing} {entry : Entry}
    (cached : engine.desk.cache.lookup server path = some listing)
    (mem : entry ∈ listing.entries) (known : entry.freshness = .known) :
    Vouched server path entry engine.desk.past := by
  have booked : engine.Booked True start.desk.cache :=
    booked_of_runFrom conforms new transport
      (fun _ _ drifts => ⟨drifts.toDrifts, fun _ => drifts.cache⟩) run
  have replays := booked.replays trivial
  rw [empty] at replays
  rw [replays] at cached
  exact (booked.chronicle.isSound distinct server path listing cached).vouched entry mem known

/-- A file in the root, which has been listed. -/
theorem known_vouched_listed : ∃ (engine : Engine Scripted Operation) (listing : Listing),
    engine.desk.cache.lookup stage .root = some listing ∧ .file "a" 1 ∈ listing.entries ∧
      Vouched stage .root (.file "a" 1) engine.desk.past := by
  let start : Engine Scripted Operation :=
    { desk := { transport := { listing := some [.file "a" 1] }, cache := {} } }
  let engine := start.after (connecting ++ [.execute (.list { path := .root }), .resume, .resume])
  have transport : Scripted.IsConforming start.desk.transport := by
    refine ⟨?_, ?_, ?_, by decide, by decide⟩
    · exact List.forall_mem_nil _
    · exact List.forall_mem_nil _
    · exact List.forall_mem_nil _
  have taken : engine.desk.past.filterMap Happening.received? = [[.file "a" 1]] := by
    decide +kernel
  have distinct : ∀ entries, .listingTaken (some entries) ∈ engine.desk.past →
      (entries.map Entry.name).Nodup := by
    intro entries mem
    have among : entries ∈ engine.desk.past.filterMap Happening.received? :=
      List.mem_filterMap.2 ⟨_, mem, rfl⟩
    rw [taken] at among
    obtain rfl := List.mem_singleton.1 among
    decide
  have cached : engine.desk.cache.lookup stage .root = some ⟨.root, [.file "a" 1], 0⟩ := by
    decide +kernel
  refine ⟨engine, _, cached, List.mem_cons_self, ?_⟩
  exact known_vouched Scripted.conforms ⟨rfl, rfl, rfl⟩ transport rfl (RunFrom.start.after _)
    distinct cached List.mem_cons_self rfl

end Engine

end Courier
