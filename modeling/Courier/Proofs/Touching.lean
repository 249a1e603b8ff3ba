import Courier.Proofs.Naming
import Courier.Proofs.Vouching

/-!
# What a line leaves known

Before a line that may change something is sent, the cache is told of it, so that nothing it touches
is taken for known any more. Here is exactly what the cache loses by that: the entries that stand
under the names in the line, in the directories in the line, and the listings of what is moved or
removed. The server reads a name differently: it follows the parts of the name. The two agree for a
name without a slash that is no dot name, and then the object itself is no longer known. For other
names the entry of the object is left as it was.
-/

namespace Courier

/-! ## What a change retains -/

/-- From `before` to `after` every entry that was not touched is still there. -/
def Entry.Retains (touched : String → Prop) (before after : List Entry) : Prop :=
  ∀ entry ∈ before, ¬touched entry.name → entry ∈ after

namespace Entry

variable {entries : List Entry}

theorem retains_update (name : String) (isDir : Bool) (freshness : Freshness)
    (entries : List Entry) :
    Retains (· = name) entries (update name isDir freshness entries) := by
  intro entry mem other
  induction entries with
  | nil => cases mem
  | cons first rest ih =>
      by_cases here : first.name = name
      · rw [update, if_pos here]
        rcases List.mem_cons.1 mem with rfl | later
        · exact absurd here other
        · exact List.mem_cons_of_mem _ later
      · rw [update, if_neg here]
        rcases List.mem_cons.1 mem with rfl | later
        · exact List.mem_cons_self
        · exact List.mem_cons_of_mem _ (ih later)

theorem retains_without (name : String) (entries : List Entry) :
    Retains (· = name) entries (without name entries) := by
  intro entry mem other
  exact List.mem_filter.2 ⟨mem, bne_iff_ne.2 other⟩

theorem retains_withoutFirst (name : String) (entries : List Entry) :
    Retains (· = name) entries (withoutFirst name entries) := by
  intro entry mem other
  induction entries with
  | nil => cases mem
  | cons first rest ih =>
      by_cases here : first.name = name
      · rw [withoutFirst, if_pos here]
        rcases List.mem_cons.1 mem with rfl | later
        · exact absurd here other
        · exact later
      · rw [withoutFirst, if_neg here]
        rcases List.mem_cons.1 mem with rfl | later
        · exact List.mem_cons_self
        · exact List.mem_cons_of_mem _ (ih later)

end Entry

namespace DirectoryCache

/-- From `before` to `after` every entry that was not touched is still in its listing. -/
def Retains (touched : Server → RemotePath → String → Prop) (before after : DirectoryCache) :
    Prop :=
  ∀ server path listing, before.lookup server path = some listing →
    ∀ entry ∈ listing.entries, ¬touched server path entry.name →
      ∃ later, after.lookup server path = some later ∧ entry ∈ later.entries

/-- The listing of the directory is dropped by the call. -/
def Call.Forgets (server : Server) (path : RemotePath) : Call → Prop
  | .forgetDir known place => known = server ∧ place = path
  | .removeDir known place file | .rename known place file _ _ =>
    known = server ∧ (place.join file).isAtOrAbove path = true
  | .forgetServer known => known = server
  | .store _ _ | .lookup _ _ | .updateEntry _ _ _ _ _ | .removeEntry _ _ _ => False

variable {touched others : Server → RemotePath → String → Prop}
  {before middle after cache : DirectoryCache} {server : Server} {path : RemotePath}

theorem Retains.trans (first : before.Retains touched middle)
    (second : middle.Retains others after) :
    before.Retains (fun server path name => touched server path name ∨ others server path name)
      after := by
  intro server path listing cached entry mem spared
  obtain ⟨untouched, unharmed⟩ := not_or.1 spared
  obtain ⟨between, found, left⟩ := first server path listing cached entry mem untouched
  exact second server path between found entry left unharmed

theorem Retains.imp (retains : before.Retains touched after)
    (more : ∀ server path name, touched server path name → others server path name) :
    before.Retains others after := by
  intro server path listing cached entry mem spared
  exact retains server path listing cached entry mem fun touched => spared (more _ _ _ touched)

theorem retains_refl (cache : DirectoryCache) : cache.Retains (fun _ _ _ => False) cache :=
  fun _ _ listing cached _ mem _ => ⟨listing, cached, mem⟩

theorem retains_modify (cache : DirectoryCache) (server : Server) (path : RemotePath)
    (change : List Entry → List Entry) {touched : String → Prop}
    (kept : ∀ entries, Entry.Retains touched entries (change entries)) :
    cache.Retains (fun other at_ name => server = other ∧ path = at_ ∧ touched name)
      (cache.modify server path fun listing =>
        { listing with entries := change listing.entries }) := by
  intro other at_ listing cached entry mem spared
  rw [lookup_modify]
  by_cases here : server = other ∧ path = at_
  · rw [if_pos here, cached]
    refine ⟨_, rfl, kept listing.entries entry mem ?_⟩
    exact fun touched => spared ⟨here.1, here.2, touched⟩
  · rw [if_neg here]
    exact ⟨listing, cached, mem⟩

theorem retains_forget (cache : DirectoryCache) (server : Server) (fits : RemotePath → Bool) :
    cache.Retains (fun other path _ => server = other ∧ fits path = true)
      (cache.forget server fits) := by
  intro other path listing cached entry mem spared
  rw [lookup_forget, if_neg spared]
  exact ⟨listing, cached, mem⟩

/-- A call that makes nothing known retains what it neither is about nor drops. -/
theorem retains_perform (cache : DirectoryCache) {call : Call} (mute : call.informs = false) :
    cache.Retains (fun server path name => call.Touches server path name ∨
      call.Forgets server path) (cache.perform call).2 := by
  cases call with
  | store server listing => cases mute
  | lookup server path => exact cache.retains_refl.imp fun _ _ _ touched => touched.elim
  | updateEntry server path name isDir freshness =>
      refine (cache.retains_modify server path (Entry.update name isDir freshness)
        (Entry.retains_update name isDir freshness)).imp ?_
      exact fun _ _ _ touched => .inl touched
  | removeEntry server path name =>
      refine (cache.retains_modify server path (Entry.without name)
        (Entry.retains_without name)).imp ?_
      exact fun _ _ _ touched => .inl touched
  | forgetDir server path =>
      refine (cache.retains_forget server (· == path)).imp ?_
      exact fun _ _ _ forgotten => .inr ⟨forgotten.1, (beq_iff_eq.1 forgotten.2).symm⟩
  | removeDir server path subDir =>
      have removed := cache.retains_modify server path (Entry.without subDir)
        (Entry.retains_without subDir)
      exact removed.trans (retains_forget _ server (path.join subDir).isAtOrAbove)
  | rename server fromPath fromFile toPath toFile =>
      let moved := movedEntry ((cache.lookup server fromPath).bind (·.find? fromFile)) toFile
      have left := cache.retains_modify server fromPath (Entry.withoutFirst fromFile)
        (Entry.retains_withoutFirst fromFile)
      have arrival : ∀ entries, Entry.Retains (· = toFile) entries
          (Entry.without toFile entries ++ [moved]) := by
        intro entries entry mem other
        exact List.mem_append_left _ (Entry.retains_without toFile entries entry mem other)
      have arrived := left.trans (retains_modify _ server toPath _ arrival)
      refine (arrived.trans (retains_forget _ server
        (fromPath.join fromFile).isAtOrAbove)).imp ?_
      rintro known path name ((⟨rfl, rfl, rfl⟩ | ⟨rfl, rfl, rfl⟩) | forgotten)
      · exact .inl ⟨rfl, .inl ⟨rfl, rfl⟩⟩
      · exact .inl ⟨rfl, .inr ⟨rfl, rfl⟩⟩
      · exact .inr forgotten
  | forgetServer server =>
      refine (cache.retains_forget server fun _ => true).imp ?_
      exact fun _ _ _ forgotten => .inr forgotten.1

/-- What a call drops is not cached any more. -/
theorem lookup_perform_forgotten (cache : DirectoryCache) {call : Call}
    (forgets : call.Forgets server path) : (cache.perform call).2.lookup server path = none := by
  cases call with
  | forgetDir known place =>
      obtain ⟨rfl, rfl⟩ := forgets
      exact (lookup_forget ..).trans (if_pos ⟨rfl, beq_self_eq_true _⟩)
  | removeDir known place file => exact (lookup_forget ..).trans (if_pos forgets)
  | rename known place file target name => exact (lookup_forget ..).trans (if_pos forgets)
  | forgetServer known => exact (lookup_forget ..).trans (if_pos ⟨forgets, rfl⟩)
  | store known listing => exact forgets.elim
  | lookup known place => exact forgets.elim
  | updateEntry known place name isDir freshness => exact forgets.elim
  | removeEntry known place name => exact forgets.elim

/-! ## What is known of an object -/

/-- No name comes up twice in a listing. -/
def IsDistinct (cache : DirectoryCache) : Prop :=
  ∀ server path listing, cache.lookup server path = some listing →
    (listing.entries.map Entry.name).Nodup

/-- An entry of this name is known in the cached listing of the directory. -/
def Knows (cache : DirectoryCache) (server : Server) (path : RemotePath) (name : String) : Prop :=
  ∃ listing, cache.lookup server path = some listing ∧
    ∃ entry ∈ listing.entries, entry.name = name ∧ entry.freshness = .known

/-- The object has a known entry in the cached listing of the directory it is in. -/
def Trusts (cache : DirectoryCache) (server : Server) (place : RemotePath) : Prop :=
  ∃ parent name, place.parent? = some parent ∧ place.lastName? = some name ∧
    cache.Knows server parent name

theorem isDistinct_of_slots
    (distinct : ∀ slot ∈ cache.slots, (slot.listing.entries.map Entry.name).Nodup) :
    cache.IsDistinct := by
  intro server path listing cached
  obtain ⟨slot, found, rfl⟩ := Option.map_eq_some_iff.1 cached
  exact distinct slot (List.mem_of_find?_eq_some found)

variable {name : String}

/-- A call that makes nothing known leaves known what it neither is about nor drops. -/
theorem knows_perform_iff (distinct : cache.IsDistinct) {call : Call}
    (mute : call.informs = false) :
    (cache.perform call).2.Knows server path name ↔
      cache.Knows server path name ∧
        ¬(call.Touches server path name ∨ call.Forgets server path) := by
  constructor
  · rintro ⟨listing, cached, entry, mem, rfl, known⟩
    obtain ⟨former, found, preserves⟩ := preserves_perform cache mute server path listing cached
    obtain ⟨before, untouched⟩ :=
      (preserves (distinct server path former found)).known entry mem known
    refine ⟨⟨former, found, entry, before, rfl, known⟩, ?_⟩
    rintro (touched | forgotten)
    · exact untouched touched
    · rw [lookup_perform_forgotten cache forgotten] at cached
      cases cached
  · rintro ⟨⟨former, found, entry, mem, rfl, known⟩, spared⟩
    obtain ⟨listing, cached, left⟩ :=
      retains_perform cache mute server path former found entry mem spared
    exact ⟨listing, cached, entry, left, rfl, known⟩

end DirectoryCache

/-! ## What a line leaves known -/

namespace WireLine

/-- The listing of the directory is dropped when the line is sent. -/
def Forgets (path : RemotePath) : WireLine → Prop
  | removeDir object | move object _ =>
    (object.directory.join object.file).isAtOrAbove path = true
  | raw _ => True
  | changeDir _ | list | get _ | put _ | remove _ | makeDir _ | chmod _ _ => False

/-- The object is one of the line that has a plain name, or the directory it makes, or it is in a
directory whose listing is dropped. -/
def Reaches (line : WireLine) (place : RemotePath) : Prop :=
  (∃ object ∈ line.objects, IsPlainName object.file ∧ object.place = place) ∨
    line = .makeDir place ∨ ∃ parent, place.parent? = some parent ∧ line.Forgets parent

variable {line : WireLine} {server : Server} {path place : RemotePath} {name : String}
  {cache : DirectoryCache}

/-- What the cache is told of is what the line is about. -/
theorem forecast?_touches {forecast : Server → DirectoryCache.Call}
    (foretells : line.forecast? = some forecast) (server : Server) :
    ((forecast server).Touches server path name ↔ line.Touches path name) ∧
      ((forecast server).Forgets server path ↔ line.Forgets path) := by
  refine ⟨⟨?_, fun touches => touches_of_forecast? foretells touches server⟩, ?_⟩
  · intro touches
    cases line with
    | put object | chmod _ object | remove object | removeDir object =>
        cases foretells
        exact ⟨touches.2.1, touches.2.2.symm⟩
    | makeDir made =>
        simp only [forecast?] at foretells
        split at foretells
        · rename_i parent last above ends
          cases foretells
          obtain ⟨-, rfl, rfl⟩ := touches
          exact ⟨above, ends⟩
        · cases foretells
    | move source target =>
        cases foretells
        rcases touches.2 with ⟨place, name⟩ | ⟨place, name⟩
        · exact .inl ⟨place, name.symm⟩
        · exact .inr ⟨place, name.symm⟩
    | raw text => trivial
    | changeDir made => cases foretells
    | list => cases foretells
    | get object => cases foretells
  · cases line with
    | makeDir made =>
        simp only [forecast?] at foretells
        split at foretells <;> cases foretells
        exact Iff.rfl
    | removeDir object | move object _ =>
        cases foretells
        exact and_iff_right rfl
    | raw text =>
        cases foretells
        exact iff_of_true rfl trivial
    | _ => cases foretells <;> exact Iff.rfl

/-- A line the cache has nothing to learn of is about none of its entries. -/
theorem not_reaches_of_forecast? (silent : line.forecast? = none) :
    ¬(line.Touches path name ∨ line.Forgets path) := by
  cases line with
  | makeDir made =>
      rintro (⟨above, last⟩ | forgets)
      · simp [forecast?, above, last] at silent
      · exact forgets
  | changeDir made => exact fun reaches => reaches.elim id id
  | list => exact fun reaches => reaches.elim id id
  | get object => exact fun reaches => reaches.elim id id
  | _ => cases silent

theorem knows_foretold_iff (line : WireLine) (distinct : cache.IsDistinct) :
    (line.foretold (some server) cache).Knows server path name ↔
      cache.Knows server path name ∧ ¬(line.Touches path name ∨ line.Forgets path) := by
  unfold foretold
  cases foretells : line.forecast? with
  | none => exact (and_iff_left (not_reaches_of_forecast? foretells)).symm
  | some forecast =>
      obtain ⟨touches, forgets⟩ := forecast?_touches foretells server
      simp only
      rw [DirectoryCache.knows_perform_iff distinct (informs_of_forecast? foretells server),
        touches, forgets]

end WireLine

/-! ## The object a line is about -/

section Objects

variable {object : ObjectName} {line : WireLine} {server : Server} {place parent : RemotePath}
  {name : String} {cache : DirectoryCache}

/-- A plain name denotes the entry of that name, be it given alone or in full. -/
theorem ObjectName.place_plain {segments : List Segment}
    (within : object.directory = .absolute segments) (plain : IsPlainName object.file) :
    object.place = .absolute (segments ++ [⟨object.file, plain⟩]) := by
  obtain ⟨directory, naming, file⟩ := object
  obtain rfl : directory = .absolute segments := within
  have inside := RemotePath.resolve_plain segments ⟨file, plain⟩
  cases naming with
  | bare =>
      have relative : file.toList.head? ≠ some '/' := by
        intro slash
        exact plain.2.2.2 (List.mem_of_head? slash)
      exact (RemotePath.join_of_relative segments relative).trans (congrArg _ inside)
  | full =>
      rw [place_full rfl, RemotePath.ofString_nameOf_full]
      exact congrArg _ inside

/-- Nothing is in no directory. -/
theorem ObjectName.place_nowhere (nowhere : object.directory = .unspecified)
    (plain : IsPlainName object.file) : object.place = .unspecified := by
  obtain ⟨directory, naming, file⟩ := object
  obtain rfl : directory = .unspecified := nowhere
  have relative : file.toList.head? ≠ some '/' := by
    intro slash
    exact plain.2.2.2 (List.mem_of_head? slash)
  have alone : text ⟨.unspecified, naming, file⟩ = file := if_pos (.inr rfl)
  unfold place RemotePath.join
  rw [alone, if_neg relative]
  rfl

namespace WireLine

theorem touches_of_mem_objects (changes : line.isMutating = true) (mem : object ∈ line.objects) :
    line.Touches object.directory object.file := by
  cases line with
  | put named | chmod _ named | remove named | removeDir named =>
      obtain rfl := List.mem_singleton.1 mem
      exact ⟨rfl, rfl⟩
  | move source target =>
      rcases List.mem_cons.1 mem with rfl | mem
      · exact .inl ⟨rfl, rfl⟩
      · obtain rfl := List.mem_singleton.1 mem
        exact .inr ⟨rfl, rfl⟩
  | get named => cases changes
  | changeDir made | list | makeDir made | raw text => cases mem

/-- What a line of the engine's own touches is an object of it or the directory it makes. -/
theorem exists_of_touches (touches : line.Touches parent name) :
    (∃ object ∈ line.objects, object.directory = parent ∧ object.file = name) ∨
      (∃ made, line = .makeDir made ∧ made.parent? = some parent ∧ made.lastName? = some name) ∨
      ∃ text, line = .raw text := by
  cases line with
  | put named | chmod _ named | remove named | removeDir named =>
      exact .inl ⟨named, List.mem_cons_self, touches⟩
  | move source target =>
      rcases touches with source | target
      · exact .inl ⟨_, List.mem_cons_self, source⟩
      · exact .inl ⟨_, List.mem_cons_of_mem _ List.mem_cons_self, target⟩
  | makeDir made => exact .inr (.inl ⟨made, rfl, touches⟩)
  | raw text => exact .inr (.inr ⟨text, rfl⟩)
  | changeDir made | list | get named => exact touches.elim

/-- In terms of directories and names. -/
theorem reaches_iff (changes : line.isMutating = true) (above : place.parent? = some parent)
    (last : place.lastName? = some name) :
    line.Reaches place ↔ line.Touches parent name ∨ line.Forgets parent := by
  constructor
  · rintro (⟨object, mem, plain, rfl⟩ | rfl | ⟨other, above', forgets⟩)
    · cases within : object.directory with
      | unspecified =>
          rw [ObjectName.place_nowhere within plain] at above
          cases above
      | absolute segments =>
          rw [ObjectName.place_plain within plain] at above last
          rw [RemotePath.parent?_append_singleton] at above
          rw [RemotePath.lastName?_append_singleton] at last
          have touches := touches_of_mem_objects changes mem
          rw [within, Option.some.inj above, show object.file = name from Option.some.inj last]
            at touches
          exact .inl touches
    · exact .inl ⟨above, last⟩
    · obtain rfl := Option.some.inj (above.symm.trans above')
      exact .inr forgets
  · rintro (touches | forgets)
    · obtain ⟨segments, segment, rfl, rfl, rfl⟩ := RemotePath.exists_of_parent? above last
      rcases exists_of_touches touches with
        ⟨object, mem, within, named⟩ | ⟨made, rfl, above', last'⟩ | ⟨text, rfl⟩
      · have plain : IsPlainName object.file := named ▸ segment.plain
        refine .inl ⟨object, mem, plain, ?_⟩
        rw [ObjectName.place_plain within plain]
        obtain ⟨segmentName, plain'⟩ := segment
        obtain rfl : object.file = segmentName := named
        rfl
      · obtain ⟨others, segment', same, named, rfl⟩ := RemotePath.exists_of_parent? above' last'
        obtain ⟨segmentName, plain'⟩ := segment
        obtain ⟨segmentName', plain''⟩ := segment'
        obtain rfl : segmentName' = segmentName := named
        obtain rfl := RemotePath.absolute.inj same
        exact .inr (.inl rfl)
      · exact .inr (.inr ⟨_, above, trivial⟩)
    · exact .inr (.inr ⟨parent, above, forgets⟩)

/-- Of what was known when the line was about to be sent, all is known but what the line reaches. -/
theorem trusts_foretold_iff (changes : line.isMutating = true) (distinct : cache.IsDistinct) :
    (line.foretold (some server) cache).Trusts server place ↔
      cache.Trusts server place ∧ ¬line.Reaches place := by
  constructor
  · rintro ⟨parent, name, above, last, knows⟩
    obtain ⟨known, spared⟩ := (knows_foretold_iff line distinct).1 knows
    exact ⟨⟨parent, name, above, last, known⟩, (reaches_iff changes above last).not.2 spared⟩
  · rintro ⟨⟨parent, name, above, last, known⟩, spared⟩
    have spared := (reaches_iff changes above last).not.1 spared
    exact ⟨parent, name, above, last, (knows_foretold_iff line distinct).2 ⟨known, spared⟩⟩

end WireLine

end Objects

/-! ## When a line is sent -/

variable {τ : Type} [Transport τ] {good : Transport.States τ}

/-- Of a line that may change something the cache was told before. -/
theorem Desk.Records.sent {operation : Operation} {start desk : Desk τ Operation} {line : WireLine}
    {text : String} {answer : Reply} {made : List Happening}
    (records : start.Records operation desk) (changes : line.isMutating = true)
    (past : desk.past = .sent line text answer :: (made ++ start.past)) :
    desk.cache = line.foretold start.session.server start.cache ∧
      operation.isConnection = false ∧ operation.kind ≠ .sleep := by
  have plain : ∀ {plains before : List Happening},
      (∀ happening ∈ plains, happening.isPlain = true ∧ happening.command? = none) →
      .sent line text answer :: (made ++ start.past) = plains ++ before → plains = [] := by
    intro plains before all same
    cases plains with
    | nil => rfl
    | cons happening rest =>
        obtain ⟨rfl, -⟩ := List.cons.inj same
        have harmless := (all _ List.mem_cons_self).1
        simp [Happening.isPlain, changes] at harmless
  cases records with
  | plain plainly =>
      obtain ⟨plains, all, later⟩ := plainly.past
      rw [past] at later
      obtain rfl := plain all later
      have longer := congrArg List.length later
      simp only [List.length_cons, List.length_append, List.nil_append] at longer
      omega
  | speaks command own prepares later same =>
      rw [past] at later
      obtain ⟨rfl, -⟩ := Happening.sent.inj (List.cons.inj later).1
      refine ⟨same.trans prepares.cache, ?_, ?_⟩
      · cases operation with
        | connect task => exact (own _ rfl).elim
        | disconnect task => exact (own _ rfl).elim
        | _ => rfl
      · cases operation with
        | sleep task => cases command
        | _ => exact fun is => by cases is
  | discards _ _ _ _ _ plainly =>
      obtain ⟨plains, all, later⟩ := plainly.past
      rw [past, cacheCall_past] at later
      obtain rfl := plain all later
      cases later
  | stores _ _ _ _ _ _ _ plainly =>
      obtain ⟨plains, all, later⟩ := plainly.past
      rw [past, cacheCall_past] at later
      obtain rfl := plain all later
      cases later

namespace Engine

variable {engine : Engine τ Operation}

/-- In every run over a transport that keeps to its contract, when a line is sent that may change
something, then of all that was known on the server of the session exactly what the line reaches is
not known any more: the objects it names by plain names, the directory it makes, and what is in the
listings dropped with it. -/
theorem sent_trusts_iff (conforms : Transport.Conforms good) (reachable : engine.Reachable good)
    {call : Call} (may : engine.MayMake good call) {turn : Turn τ Operation}
    (takes : engine.Takes call turn) {line : WireLine} {text : String} {answer : Reply}
    {made : List Happening}
    (sends : (turn.step engine.env).desk.past =
      .sent line text answer :: (made ++ turn.desk.past))
    (changes : line.isMutating = true) (distinct : turn.desk.cache.IsDistinct) :
    ∃ server, turn.desk.session.server = some server ∧ ∀ place,
      (turn.step engine.env).desk.cache.Trusts server place ↔
        turn.desk.cache.Trusts server place ∧ ¬line.Reaches place := by
  have oriented := oriented_of_reachable conforms reachable
  have rests := rests_of_reachable conforms.neverGoesOn reachable
  obtain ⟨first, opened, leads⟩ := takes
  obtain ⟨fits, known⟩ := Turn.Fits.leads conforms.neverGoesOn (P := Turn.Oriented)
    (fun _ _ fits oriented next => oriented.next conforms fits next) leads
    (rests.opening may opened) (oriented.opening opened)
  obtain ⟨told, plain, awake⟩ :=
    (known.recorded conforms fits engine.env).records.sent changes sends
  obtain ⟨server, ours, -⟩ := known.linked plain awake
  refine ⟨server, ours, fun place => ?_⟩
  rw [told, show Session.server _ = some server from ours]
  exact WireLine.trusts_foretold_iff changes distinct

/-- A directory is made where a file was known. -/
theorem sent_trusts_iff_makeDir :
    let place : RemotePath := .ofString "/a"
    ∃ turn, stocked.Takes (.execute (.makeDir ⟨place⟩)) turn ∧
      turn.desk.cache.Trusts stage place ∧
      ¬(turn.step stocked.env).desk.cache.Trusts stage place := by
  intro place
  have reachable : stocked.Reachable Scripted.IsConforming := conforming_reachable _ connecting
  have accepted : stocked.accept (.makeDir ⟨place⟩) = .ok (.makeDir { request := ⟨place⟩ }) :=
    accept_of_idle stocked_idle (by decide +kernel) (by rintro request ⟨⟩) rfl
  let first : Turn Scripted Operation :=
    { budget := stocked.settings.maxContinue.toNat, below := [], event := .send
      top := .makeDir { request := ⟨place⟩ }
      desk := { stocked.desk.record (.started (.makeDir ⟨place⟩)) with
        journal := (stocked.desk.record (.started (.makeDir ⟨place⟩))).journal.note
          (.span (Command.makeDir ⟨place⟩).spanName (Command.makeDir ⟨place⟩).mainArgument) } }
  have opened : stocked.opening (.execute (.makeDir ⟨place⟩)) = some first := by
    unfold opening
    simp only [accepted]
    rfl
  have allowed : first.budget = 63 + 1 := by decide +kernel
  have goesOn : first.next stocked.env = .inr ((first.step stocked.env).onward 63 []) := by
    rw [Turn.next, allowed]
    exact Step.next_of_again rfl
  let second := (first.step stocked.env).onward 63 []
  have takes : stocked.Takes (.execute (.makeDir ⟨place⟩)) second :=
    ⟨first, opened, .single goesOn⟩
  have ours : second.desk.session.server = some stage := by decide +kernel
  have known : second.desk.cache.Trusts stage place := by
    refine ⟨.root, "a", by decide +kernel, by decide +kernel,
      ⟨.root, [.file "a" 1, .file "keep" 3], 0⟩, ?_, _, List.mem_cons_self, rfl, rfl⟩
    decide +kernel
  have distinct : second.desk.cache.IsDistinct :=
    DirectoryCache.isDistinct_of_slots (by decide +kernel)
  let told := MakeDirTask.mark ⟨⟨place⟩, .ready⟩ .unknown { second.desk with pending := none }
  obtain ⟨made, -, past⟩ :=
    (MakeDirTask.mark_prepares ⟨⟨place⟩, .ready⟩ { second.desk with pending := none }).tells
  have sends : (second.step stocked.env).desk.past =
      .sent (.makeDir place) (told.lineText (.makeDir place))
        (Transport.send told.transport (told.lineText (.makeDir place))).1 ::
          (made ++ second.desk.past) :=
    (told.send_past (.makeDir place) _).trans (congrArg (List.cons _) past)
  obtain ⟨server, same, trusts⟩ :=
    sent_trusts_iff Scripted.conforms reachable (mayMake_execute _) takes sends rfl distinct
  obtain rfl := Option.some.inj (ours.symm.trans same)
  exact ⟨second, takes, known, fun still => ((trusts place).1 still).2 (.inr (.inl rfl))⟩

/-- The permissions of a file in a directory below are being changed, and the file is still
known. -/
theorem sent_trusts_below :
    let object : ObjectName := ⟨.ofString "/data", .bare, "sub/a"⟩
    let command : Command := .chmod ⟨object.directory, object.file, "644"⟩
    let cache := ({} : DirectoryCache).store stage ⟨.ofString "/data/sub", [.file "a" 1], 0⟩
    let engine := (rehearsed cache).after (connecting ++ [.execute command, .resume])
    command.valid = true ∧ cache.IsDistinct ∧ engine.Reachable Scripted.IsConforming ∧
      engine.desk.past.head?.bind Happening.line? = some (.chmod "644" object) ∧
      object.place = .ofString "/data/sub/a" ∧ engine.cache.Trusts stage object.place := by
  intro object command cache engine
  refine ⟨by decide +kernel, DirectoryCache.isDistinct_of_slots (by decide +kernel),
    conforming_reachable cache _, by decide +kernel, by decide +kernel, ?_⟩
  refine ⟨.ofString "/data/sub", "a", by decide +kernel, by decide +kernel,
    ⟨.ofString "/data/sub", [.file "a" 1], 0⟩, ?_, _, List.mem_cons_self, rfl, rfl⟩
  decide +kernel

end Engine

end Courier
