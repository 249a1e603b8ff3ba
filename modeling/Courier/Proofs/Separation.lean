import Courier.Cache.DirectoryCache

/-!
# Servers do not interfere

The listings of all servers stand in one cache, and a call that moves or removes a directory goes
through all of them. It names one server and leaves the part of every other one alone; what it
answers and what it does to its own part is decided by that part. So the calls on other servers can
be left out of a run, and neither the answers nor the listings of the server show it.
-/

namespace Courier.DirectoryCache

/-! ## The part of a server -/

/-- What is cached for one server. -/
def part (cache : DirectoryCache) (server : Server) : DirectoryCache :=
  ⟨cache.slots.filter (·.server = server)⟩

/-- The calls one after the other, each with its answer, and the cache after the last one. -/
def performAll : List Call → DirectoryCache → List (Call × Answer) × DirectoryCache
  | [], cache => ([], cache)
  | call :: rest, cache =>
    let (answer, changed) := cache.perform call
    let (told, last) := performAll rest changed
    ((call, answer) :: told, last)

variable (cache : DirectoryCache) {server other : Server} (path : RemotePath)

/-- A server is seen in its own part as in the whole cache. -/
theorem lookup_part : (cache.part server).lookup server path = cache.lookup server path := by
  show ((cache.slots.filter _).find? _).map _ = (cache.slots.find? _).map _
  rw [List.find?_filter]
  congr 2
  funext slot
  by_cases own : slot.server = server
  · simp [own]
  · simp [own]

/-! ## The two moves -/

variable (change : Listing → Listing) (fits : RemotePath → Bool)

theorem part_modify :
    (cache.modify server path change).part server =
      (cache.part server).modify server path change := by
  apply congrArg DirectoryCache.mk
  show List.filter _ (List.map _ _) = List.map _ (List.filter _ _)
  rw [List.filter_map]
  congr 2
  funext slot
  show decide (CacheSlot.server (if _ then _ else _) = server) = decide (slot.server = server)
  split
  · rfl
  · rfl

theorem part_modify_of_ne (apart : other ≠ server) :
    (cache.modify other path change).part server = cache.part server := by
  apply congrArg DirectoryCache.mk
  show List.filter _ (List.map _ _) = List.filter _ _
  induction cache.slots with
  | nil => rfl
  | cons slot rest ih =>
      by_cases here : slot.server = other ∧ slot.path = path
      · -- The slot that is changed belongs to the other server and is in neither part.
        have foreign : slot.server ≠ server := fun own => apart (here.1.symm.trans own)
        rw [List.map_cons, if_pos here, List.filter_cons_of_neg (by simpa using foreign),
          List.filter_cons_of_neg (by simpa using foreign)]
        exact ih
      · rw [List.map_cons, if_neg here, List.filter_cons, List.filter_cons, ih]

theorem part_forget :
    (cache.forget server fits).part server = (cache.part server).forget server fits := by
  apply congrArg DirectoryCache.mk
  show List.filter _ (List.filter _ _) = List.filter _ (List.filter _ _)
  rw [List.filter_filter, List.filter_filter]
  apply List.filter_congr
  intro slot _
  exact Bool.and_comm _ _

theorem part_forget_of_ne (apart : other ≠ server) :
    (cache.forget other fits).part server = cache.part server := by
  apply congrArg DirectoryCache.mk
  show List.filter _ (List.filter _ _) = List.filter _ _
  rw [List.filter_filter]
  apply List.filter_congr
  intro slot _
  by_cases own : slot.server = server
  · have foreign : slot.server ≠ other := fun h => apart (h.symm.trans own)
    simp [own, own ▸ foreign]
  · simp [own]

/-! ## One call -/

theorem part_store (listing : Listing) :
    (cache.store server listing).part server = (cache.part server).store server listing := by
  apply congrArg DirectoryCache.mk
  show List.filter _ (_ :: _) = _ :: _
  rw [List.filter_cons_of_pos (by simp)]
  exact congrArg _ (congrArg slots (part_forget cache _))

theorem part_store_of_ne (listing : Listing) (apart : other ≠ server) :
    (cache.store other listing).part server = cache.part server := by
  refine Eq.trans ?_ (part_forget_of_ne cache (· == listing.path) apart)
  apply congrArg DirectoryCache.mk
  show List.filter _ (_ :: _) = _
  rw [List.filter_cons_of_neg (by simpa using apart)]

theorem part_rename (fromPath : RemotePath) (fromFile : String) (toPath : RemotePath)
    (toFile : String) :
    (cache.rename server fromPath fromFile toPath toFile).part server =
      (cache.part server).rename server fromPath fromFile toPath toFile := by
  show (forget (modify (modify _ _ _ _) _ _ _) _ _).part server = forget _ _ _
  rw [part_forget, part_modify, part_modify, lookup_part]

theorem part_rename_of_ne (fromPath : RemotePath) (fromFile : String) (toPath : RemotePath)
    (toFile : String) (apart : other ≠ server) :
    (cache.rename other fromPath fromFile toPath toFile).part server = cache.part server := by
  show (forget (modify (modify _ _ _ _) _ _ _) _ _).part server = _
  rw [part_forget_of_ne _ _ apart, part_modify_of_ne _ _ _ apart, part_modify_of_ne _ _ _ apart]

/-- What a call answers and leaves of its server is decided by the part of that server. -/
theorem perform_part (call : Call) :
    (cache.part call.server).perform call =
      ((cache.perform call).1, (cache.perform call).2.part call.server) := by
  cases call with
  | store server listing => exact congrArg (Prod.mk _) (part_store cache listing).symm
  | lookup server path =>
      exact congrArg (fun listing => (Answer.found listing, _)) (lookup_part cache path)
  | updateEntry server path name isDir freshness =>
      apply Prod.ext
      · exact congrArg (fun listing => Answer.updated listing.isSome) (lookup_part cache path)
      · show (part _ _).updateEntry _ _ _ _ _ = (updateEntry _ _ _ _ _ _).part _
        exact (part_modify cache path _).symm
  | removeEntry server path name => exact congrArg (Prod.mk _) (part_modify cache path _).symm
  | forgetDir server path => exact congrArg (Prod.mk _) (part_forget cache _).symm
  | removeDir server path subDir =>
      have removed : (cache.removeEntry server path subDir).part server =
          (cache.part server).removeEntry server path subDir := part_modify cache path _
      have forgotten : ((cache.removeEntry server path subDir).forget server
            (path.join subDir).isAtOrAbove).part server =
          ((cache.removeEntry server path subDir).part server).forget server
            (path.join subDir).isAtOrAbove := part_forget _ _
      exact congrArg (Prod.mk _) (forgotten.trans (congrArg (forget · _ _) removed)).symm
  | rename server fromPath fromFile toPath toFile =>
      exact congrArg (Prod.mk _) (part_rename cache fromPath fromFile toPath toFile).symm
  | forgetServer server => exact congrArg (Prod.mk _) (part_forget cache _).symm

/-- A call leaves the part of every other server as it is. -/
theorem part_perform_of_ne {call : Call} (apart : call.server ≠ server) :
    (cache.perform call).2.part server = cache.part server := by
  cases call with
  | store other listing => exact part_store_of_ne cache listing apart
  | lookup other path => rfl
  | updateEntry other path name isDir freshness => exact part_modify_of_ne cache path _ apart
  | removeEntry other path name => exact part_modify_of_ne cache path _ apart
  | forgetDir other path => exact part_forget_of_ne cache _ apart
  | removeDir other path subDir =>
      exact (part_forget_of_ne _ _ apart).trans (part_modify_of_ne cache path _ apart)
  | rename other fromPath fromFile toPath toFile =>
      exact part_rename_of_ne cache fromPath fromFile toPath toFile apart
  | forgetServer other => exact part_forget_of_ne cache _ apart

/-! ## Any number of calls -/

/-- Two caches that agree on a server go on agreeing on it when only one of them sees the calls on
the others. The induction is on the calls: a call on the server does the same to both parts, and any
other leaves the part of the one cache that sees it. -/
theorem performAll_of_part_eq (calls : List Call) {cache twin : DirectoryCache}
    (agree : cache.part server = twin.part server) :
    (performAll calls cache).1.filter (·.1.server = server) =
        (performAll (calls.filter (·.server = server)) twin).1 ∧
      (performAll calls cache).2.part server =
        (performAll (calls.filter (·.server = server)) twin).2.part server := by
  induction calls generalizing cache twin with
  | nil => exact ⟨rfl, agree⟩
  | cons call rest ih =>
      by_cases own : call.server = server
      · subst own
        have same : ((cache.perform call).1, (cache.perform call).2.part call.server) =
            ((twin.perform call).1, (twin.perform call).2.part call.server) := by
          rw [← perform_part, ← perform_part, agree]
        obtain ⟨answers, parts⟩ := Prod.mk.inj same
        obtain ⟨told, last⟩ := ih parts
        rw [List.filter_cons_of_pos (by simp)]
        constructor
        · show List.filter _ ((call, (cache.perform call).1) :: _) =
            (call, (twin.perform call).1) :: _
          rw [List.filter_cons_of_pos (by simp), answers]
          exact congrArg _ told
        · exact last
      · have kept : (cache.perform call).2.part server = twin.part server :=
          (part_perform_of_ne cache own).trans agree
        obtain ⟨told, last⟩ := ih kept
        rw [List.filter_cons_of_neg (by simpa using own)]
        constructor
        · show List.filter _ ((call, (cache.perform call).1) :: _) = _
          rw [List.filter_cons_of_neg (by simpa using own)]
          exact told
        · exact last

/-- Leaving out the calls on other servers changes nothing for a server: neither what its own calls
answer nor what is cached for it in the end. -/
theorem servers_do_not_interfere (calls : List Call) (cache : DirectoryCache) (server : Server) :
    let all := performAll calls cache
    let own := performAll (calls.filter (·.server = server)) cache
    all.1.filter (·.1.server = server) = own.1 ∧ all.2.part server = own.2.part server ∧
      ∀ path, all.2.lookup server path = own.2.lookup server path := by
  have agree : cache.part server = cache.part server := rfl
  obtain ⟨told, last⟩ := performAll_of_part_eq calls agree
  refine ⟨told, last, ?_⟩
  intro path
  rw [← lookup_part, last, lookup_part]

end Courier.DirectoryCache
