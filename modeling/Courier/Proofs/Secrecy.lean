import Courier.Command.Outline
import Courier.Operation.Dispatch
import Courier.Proofs.Rehearsal
import Mathlib.Data.List.Forall2

/-!
# Confidential queries stay confidential

Two requests that differ only in a confidential query cannot be told apart: not by their texts, not
by the verdict on them, and not by what an engine makes of them. Whatever is read off such an
address is read off what stands before its first `?`.
-/

namespace Courier

/-! ## What is read off an address -/

/-- What is taken up to a separator at the latest is taken from before the separator. -/
theorem takeWhile_before {taken : Char → Bool} {separator : Char}
    (stops : taken separator = false) (front back : List Char) :
    (front ++ separator :: back).takeWhile taken = front.takeWhile taken := by
  induction front with
  | nil => simp [stops]
  | cons c front ih => cases goesOn : taken c <;> simp [goesOn, ih]

/-- A prefix without the separator is found before the separator or not at all. -/
theorem isPrefixOf_before {separator : Char} {start : List Char} (absent : separator ∉ start)
    (front back : List Char) :
    start.isPrefixOf (front ++ separator :: back) = start.isPrefixOf front := by
  induction start generalizing front with
  | nil => simp
  | cons c rest ih =>
      have other : c ≠ separator := fun same => absent (same ▸ List.mem_cons_self)
      cases front with
      | nil => simp [List.isPrefixOf, other]
      | cons d front =>
          have left := ih (fun mem => absent (List.mem_cons_of_mem _ mem)) front
          simp [List.isPrefixOf, left]

namespace HttpRequest

theorem after?_before {separator : Char} {start : List Char} (absent : separator ∉ start)
    (front back : List Char) :
    after? start (front ++ separator :: back) =
      (after? start front).map (· ++ separator :: back) := by
  unfold after?
  rw [isPrefixOf_before absent]
  by_cases begins : start.isPrefixOf front = true
  · rw [if_pos begins, if_pos begins, Option.map_some]
    have shorter : start.length ≤ front.length := (List.isPrefixOf_iff_prefix.1 begins).length_le
    rw [List.drop_append_of_le_length shorter]
  · rw [if_neg begins, if_neg begins, Option.map_none]

theorem toList_withQuery (base query : String) :
    (base ++ "?" ++ query).toList = base.toList ++ '?' :: query.toList := by
  simp

/-- The host stands before the query. -/
theorem host?_withQuery (base query : String) : host? (base ++ "?" ++ query) = host? base := by
  have stops (rest : List Char) :
      (rest ++ '?' :: query.toList).takeWhile (fun c => c != '/' && c != '?' && c != '#') =
        rest.takeWhile (fun c => c != '/' && c != '?' && c != '#') :=
    takeWhile_before (by decide) rest query.toList
  unfold host?
  rw [toList_withQuery, after?_before (by decide), after?_before (by decide)]
  cases after? "https://".toList base.toList with
  | some rest => simp [stops]
  | none => cases after? "http://".toList base.toList <;> simp [stops]

variable {request other : HttpRequest}

/-- Of a confidential address all that is shown is what stands before its first `?`. -/
theorem shownUri_withQuery {base query : String} (confidential : request.confidential = true)
    (plain : '?' ∉ base.toList) (uri : request.uri = base ++ "?" ++ query) :
    request.shownUri = base ++ "?<redacted>" := by
  have shown : (base.toList ++ '?' :: query.toList).takeWhile (· != '?') = base.toList := by
    have whole : ∀ c ∈ base.toList, (c != '?') = true := by
      intro c mem
      simpa using ne_of_mem_of_not_mem mem plain
    rw [List.takeWhile_append_of_pos whole]
    simp
  unfold shownUri
  simp only
  rw [uri, toList_withQuery, shown, if_pos (by simp [confidential]), String.ofList_toList]

/-- Both requests are confidential, and they differ at most in what follows the first `?` of their
addresses. -/
structure DiffersInQuery (request other : HttpRequest) : Prop where
  confidential : request.confidential = true
  address : ∃ base query instead : String, '?' ∉ base.toList ∧
    request.uri = base ++ "?" ++ query ∧ other.uri = base ++ "?" ++ instead
  rest : other = { request with uri := other.uri }

namespace DiffersInQuery

theorem shownUri_eq (differs : request.DiffersInQuery other) :
    request.shownUri = other.shownUri := by
  obtain ⟨confidential, ⟨base, query, instead, plain, uri, otherUri⟩, rest⟩ := differs
  have both : other.confidential = true := by
    rw [rest]
    exact confidential
  rw [shownUri_withQuery confidential plain uri, shownUri_withQuery both plain otherUri]

theorem valid_eq (differs : request.DiffersInQuery other) : request.valid = other.valid := by
  obtain ⟨-, ⟨base, query, instead, -, uri, otherUri⟩, rest⟩ := differs
  have verb : other.verb = request.verb := by rw [rest]
  unfold valid
  rw [uri, otherUri, host?_withQuery, host?_withQuery, verb]

theorem outline_eq (differs : request.DiffersInQuery other) (store : Local.Store) :
    request.outline store = other.outline store := by
  have shown := differs.shownUri_eq
  obtain ⟨-, -, rest⟩ := differs
  unfold outline
  rw [shown]
  generalize other.shownUri = address
  rw [rest]

end DiffersInQuery

end HttpRequest

namespace Engine

variable {τ : Type} [Transport τ] {request other : HttpRequest}

omit [Transport τ] in
/-- Requests over HTTP are not served. -/
theorem refused_http (engine : Engine τ Operation) (request : HttpRequest) :
    ∃ refusal, engine.accept (.http request) = .error refusal := by
  cases accepted : engine.accept (.http request) with
  | error refusal => exact ⟨refusal, rfl⟩
  | ok operation =>
      obtain ⟨-, -, protocol, -, offered⟩ := accept_eq_ok accepted
      cases protocol <;> cases offered

omit [Transport τ] in
/-- Why a request is refused does not depend on its query. -/
theorem accept_http (engine : Engine τ Operation) (differs : request.DiffersInQuery other) :
    engine.accept (.http request) = engine.accept (.http other) := by
  have valid : (Command.http request).valid = (Command.http other).valid := differs.valid_eq
  have served : protocolFor engine.session (.http request) =
      protocolFor engine.session (.http other) := rfl
  have offered (protocol : Protocol) :
      (Behaviour.ofCommand? (.http request) protocol : Option Operation) =
        Behaviour.ofCommand? (.http other) protocol := by
    cases protocol <;> rfl
  unfold accept
  rw [valid, served]
  simp only [offered]

/-- An engine notes a refused request by what may be shown of it. -/
theorem execute_http (engine : Engine τ Operation) (differs : request.DiffersInQuery other) :
    engine.execute (.http request) = engine.execute (.http other) := by
  obtain ⟨refusal, refused⟩ := refused_http engine other
  have shown : (Command.http request).mainArgument = (Command.http other).mainArgument :=
    differs.shownUri_eq
  have noted : refusal.note? (.http request) = refusal.note? (.http other) := by
    cases refusal with
    | busy => rfl
    | invalid => simp only [Refusal.note?, shown]; rfl
    | alreadyConnected => rfl
    | notConnected => rfl
    | notSupported protocol => rfl
  unfold execute
  rw [accept_http engine differs, refused]
  simp only [noted]

/-! ## Over a run -/

/-- Calls that differ at most in a confidential query. -/
inductive Call.Alike : Call → Call → Prop
  | same (call : Call) : Alike call call
  | http {request other : HttpRequest} (differs : request.DiffersInQuery other) :
      Alike (.execute (.http request)) (.execute (.http other))

/-- What each of some calls comes to: its reply, and the engine with its journal and log. -/
def outcomes (engine : Engine τ Operation) : List Call → List (Reply × Engine τ Operation)
  | [] => []
  | call :: rest => engine.make call :: outcomes (engine.make call).2 rest

theorem make_alike (engine : Engine τ Operation) {call instead : Call}
    (alike : call.Alike instead) : engine.make call = engine.make instead := by
  cases alike with
  | same => rfl
  | http differs => exact engine.execute_http differs

/-- However often confidential requests are made, nothing tells their queries. -/
theorem outcomes_alike (engine : Engine τ Operation) {calls others : List Call}
    (alike : List.Forall₂ Call.Alike calls others) :
    engine.outcomes calls = engine.outcomes others := by
  induction alike generalizing engine with
  | nil => rfl
  | cons first _ ih =>
      unfold outcomes
      rw [engine.make_alike first, ih]

end Engine

namespace HttpRequest

variable {request other : HttpRequest}

/-- Two requests that differ only in a confidential query look the same in every text, are valid or
not alike, and have the same reply and leave the same engine behind, wherever they are made. -/
theorem query_hidden (differs : request.DiffersInQuery other) :
    request.shownUri = other.shownUri ∧ request.valid = other.valid ∧
      (∀ store, request.outline store = other.outline store ∧
        (Command.http request).describe store = (Command.http other).describe store) ∧
      (Command.http request).title = (Command.http other).title ∧
      (Command.http request).mainArgument = (Command.http other).mainArgument ∧
      ∀ (τ : Type) [Transport τ] (engine : Engine τ Operation),
        engine.execute (.http request) = engine.execute (.http other) := by
  refine ⟨differs.shownUri_eq, differs.valid_eq, ?_, rfl, differs.shownUri_eq, ?_⟩
  · intro store
    refine ⟨differs.outline_eq store, ?_⟩
    unfold Command.describe Command.outline
    simp only [differs.outline_eq store]
    rfl
  · intro τ _ engine
    exact engine.execute_http differs

/-- The query may hold whatever is a separator elsewhere, and no host can be hidden in it. -/
theorem query_hidden_separators :
    let login : HttpRequest :=
      { uri := "https://h/x?token=a?b#c/d@e\n", verb := "GET", confidential := true }
    let bare : HttpRequest := { uri := "https://h/x?", verb := "GET", confidential := true }
    let offered := (Engine.rehearsed {}).after Engine.connecting
    login.DiffersInQuery bare ∧ login.shownUri = "https://h/x?<redacted>" ∧
      bare.shownUri = "https://h/x?<redacted>" ∧
      offered.execute (.http login) = offered.execute (.http bare) := by
  intro login bare offered
  have differs : login.DiffersInQuery bare :=
    ⟨rfl, ⟨"https://h/x", "token=a?b#c/d@e\n", "", by decide, by decide, by decide⟩, rfl⟩
  obtain ⟨shown, -, -, -, -, alike⟩ := query_hidden differs
  have hidden : login.shownUri = "https://h/x?<redacted>" := by decide +kernel
  exact ⟨differs, hidden, shown.symm.trans hidden, alike _ offered⟩

end HttpRequest

end Courier
