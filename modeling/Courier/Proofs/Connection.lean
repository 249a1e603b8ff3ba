import Courier.Proofs.Requests

/-!
# Lines and the connection

A line is sent only while the engine presumes that there is a connection: one was made, and the
engine has not closed it since, nor been told that it is lost. The presumption can be wrong. A
disconnection that is given up while it is under way is taken not to have happened, although the
transport was asked for it. Where none is given up, every line goes out on a live connection.

Of the transport it is relied upon only that connecting, sending and waking up do not succeed at
once; what it reports later, and how it answers a request to disconnect, may be anything.
-/

namespace Courier

/-! ## The connection as it shows in what happened -/

/-- The transport was asked to close the connection, or the owner reported that it is lost. -/
def Happening.isCut : Happening → Bool
  | .disconnecting _ | .connectionLost => true
  | _ => false

/-- The happening is a cut, or may be the report that a connection was made. -/
def Happening.tellsOfLink : Happening → Bool
  | .completed result => result = .ok
  | happening => happening.isCut

/-- A request to connect is under way, and nothing has been reported that decides it. -/
inductive Dialing : List Happening → Prop
  | asked {server : Server} {credentials : Credentials} {past : List Happening} :
      Dialing (.connecting server credentials .wouldBlock :: past)
  | waits {happening : Happening} {past : List Happening} (wait : happening.isWait = true)
      (dialing : Dialing past) : Dialing (happening :: past)
  | undecided {result : Reply} {past : List Happening} (disposition : result.isDisposition = true)
      (dialing : Dialing past) : Dialing (.completed result :: past)

/-- A request to connect has completed with `ok`, and since then neither was the transport asked to
close the connection nor was it reported lost. -/
inductive Live : List Happening → Prop
  | connected {past : List Happening} (dialing : Dialing past) : Live (.completed .ok :: past)
  | since {happening : Happening} {past : List Happening} (keeps : happening.isCut = false)
      (live : Live past) : Live (happening :: past)

/-- What the engine takes for a live connection: a request to close it that was given up while it
was under way does not count. -/
inductive Presumed : List Happening → Prop
  | connected {past : List Happening} (dialing : Dialing past) : Presumed (.completed .ok :: past)
  | since {happening : Happening} {past : List Happening} (keeps : happening.isCut = false)
      (presumed : Presumed past) : Presumed (happening :: past)
  | recalled {waits past : List Happening} (waited : ∀ happening ∈ waits, happening.isWait = true)
      (before : Presumed past) :
      Presumed (.canceled :: (waits ++ .disconnecting .wouldBlock :: past))

/-- A request to close the connection was given up while it was under way. -/
def Recalled (past : List Happening) : Prop :=
  ∃ later waits before, past = later ++ .canceled :: (waits ++ .disconnecting .wouldBlock :: before)
    ∧ ∀ happening ∈ waits, happening.isWait = true

/-- A request to close a connection that was presumed is under way. -/
def Closing (past : List Happening) : Prop :=
  ∃ waits before, past = waits ++ .disconnecting .wouldBlock :: before ∧
    (∀ happening ∈ waits, happening.isWait = true) ∧ Presumed before

/-- Every line was sent while there was presumed to be a connection. -/
def LinesPresumed : List Happening → Prop :=
  Throughout fun earlier happening => happening.line?.isSome = true → Presumed earlier

section History

variable {past made : List Happening} {happening : Happening}

theorem Recalled.later (recalled : Recalled past) (happening : Happening) :
    Recalled (happening :: past) := by
  obtain ⟨later, waits, before, rfl, waited⟩ := recalled
  exact ⟨happening :: later, waits, before, rfl, waited⟩

theorem Recalled.any_isCut (recalled : Recalled past) : past.any Happening.isCut = true := by
  obtain ⟨later, waits, before, rfl, -⟩ := recalled
  simp [Happening.isCut]

/-- Of the cuts and of the reports of success on a live connection the last one is no cut. -/
theorem Live.latest (live : Live past) :
    (past.find? Happening.tellsOfLink).map Happening.isCut = some false := by
  induction live with
  | connected dialing => rfl
  | @since happening past keeps live ih =>
      rw [List.find?_cons]
      split
      · rw [Option.map_some, keeps]
      · exact ih

/-- The presumption is right unless a request to close was given up. -/
theorem Presumed.live (presumed : Presumed past) (h : ¬ Recalled past) : Live past := by
  induction presumed with
  | connected dialing => exact .connected dialing
  | since keeps presumed ih =>
      refine .since keeps (ih ?_)
      intro recalled
      exact h (recalled.later _)
  | recalled waited before ih => exact absurd ⟨[], _, _, rfl, waited⟩ h

/-- A request to connect that was made after another request is under way without that. -/
theorem Dialing.since {between former : List Happening} {closing : Reply}
    (dialing : Dialing (between ++ .disconnecting closing :: former)) : Dialing between := by
  induction between with
  | nil =>
      cases dialing with
      | waits wait dialing => cases wait
  | cons happening rest ih =>
      cases dialing with
      | asked => exact .asked
      | waits wait dialing => exact .waits wait (ih dialing)
      | undecided disposition dialing => exact .undecided disposition (ih dialing)

/-- Where there is presumed to be a connection after one was asked to be closed, a new one has been
made, or the closing was given up while it was under way. -/
theorem Presumed.since_closing (presumed : Presumed past) {between former : List Happening}
    {closing : Reply} (h : past = between ++ .disconnecting closing :: former) :
    Presumed between ∨ closing = .wouldBlock ∧ ∃ since waits,
      between = since ++ .canceled :: waits ∧ ∀ happening ∈ waits, happening.isWait = true := by
  induction presumed generalizing between with
  | connected dialing =>
      cases between with
      | nil => cases h
      | cons happening rest =>
          obtain ⟨rfl, rfl⟩ := List.cons.inj h
          exact .inl (.connected dialing.since)
  | since keeps presumed ih =>
      cases between with
      | nil =>
          obtain ⟨rfl, -⟩ := List.cons.inj h
          cases keeps
      | cons happening rest =>
          obtain ⟨rfl, tail⟩ := List.cons.inj h
          rcases ih tail with made | ⟨blocks, since, waits, rfl, waited⟩
          · exact .inl (.since keeps made)
          · exact .inr ⟨blocks, _ :: since, waits, rfl, waited⟩
  | @recalled waits past waited before ih =>
      cases between with
      | nil => cases h
      | cons happening rest =>
          obtain ⟨rfl, tail⟩ := List.cons.inj h
          -- the request is the one that was given up, or an earlier one
          rcases List.append_eq_append_iff.1 tail with ⟨later, rfl, split⟩ | ⟨later, rfl, split⟩
          · cases later with
            | nil =>
                obtain ⟨same, -⟩ := List.cons.inj split
                obtain rfl := Happening.disconnecting.inj same
                refine .inr ⟨rfl, [], waits, ?_, waited⟩
                rw [List.append_nil]
                rfl
            | cons recalled later =>
                obtain ⟨rfl, deeper⟩ := List.cons.inj split
                rcases ih deeper with made | ⟨blocks, since, others, rfl, all⟩
                · exact .inl (.recalled waited made)
                · refine .inr ⟨blocks, .canceled :: (waits ++ .disconnecting .wouldBlock :: since),
                    others, ?_, all⟩
                  simp
          · cases later with
            | nil =>
                obtain ⟨same, -⟩ := List.cons.inj split
                obtain rfl := Happening.disconnecting.inj same
                refine .inr ⟨rfl, [], rest, rfl, ?_⟩
                intro happening mem
                exact waited happening (List.mem_append_left _ mem)
            | cons recalled later =>
                obtain ⟨rfl, -⟩ := List.cons.inj split
                cases waited _ (List.mem_append_right _ List.mem_cons_self)

theorem Presumed.append (presumed : Presumed past)
    (keeps : ∀ happening ∈ made, happening.isCut = false) : Presumed (made ++ past) := by
  induction made with
  | nil => exact presumed
  | cons happening rest ih =>
      refine .since (keeps happening List.mem_cons_self) (ih ?_)
      intro later mem
      exact keeps later (List.mem_cons_of_mem _ mem)

theorem Dialing.append (dialing : Dialing past)
    (waited : ∀ happening ∈ made, happening.isWait = true) : Dialing (made ++ past) := by
  induction made with
  | nil => exact dialing
  | cons happening rest ih =>
      refine .waits (waited happening List.mem_cons_self) (ih ?_)
      intro later mem
      exact waited later (List.mem_cons_of_mem _ mem)

theorem Closing.append (closing : Closing past)
    (waited : ∀ happening ∈ made, happening.isWait = true) : Closing (made ++ past) := by
  obtain ⟨waits, before, rfl, all, presumed⟩ := closing
  refine ⟨made ++ waits, before, (List.append_assoc _ _ _).symm, ?_, presumed⟩
  intro happening mem
  rcases List.mem_append.1 mem with mem | mem
  · exact waited happening mem
  · exact all happening mem

theorem LinesPresumed.append (lines : LinesPresumed past)
    (silent : ∀ happening ∈ made, happening.line? = none) : LinesPresumed (made ++ past) := by
  refine Throughout.append lines ?_
  intro happening mem earlier sent
  rw [silent happening mem] at sent
  cases sent

namespace Happening

theorem isCut_of_isWork (work : happening.isWork = true) : happening.isCut = false := by
  cases happening <;> first | rfl | cases work

theorem isCut_of_isWait (wait : happening.isWait = true) : happening.isCut = false := by
  cases happening <;> first | rfl | cases wait

theorem isCut_of_isDoubt (doubt : happening.isDoubt = true) : happening.isCut = false := by
  cases happening <;> first | rfl | cases doubt

theorem line?_of_isWork (work : happening.isWork = true) : happening.line? = none := by
  cases happening <;> first | rfl | cases work

end Happening

end History

/-! ## What is known of the session -/

/-- What the session says makes sense: there is a server where there is a connection, a directory is
known only then, and it is one. -/
structure Session.Sensible (session : Session) : Prop where
  server : session.connected = true → session.server.isSome = true
  directory : session.directory.isSome = true → session.connected = true
  specified : ∀ path, session.directory = some path → path.isUnspecified = false

/-- How the session stands while there is nothing to do: there is a connection, or nothing at all is
known. -/
def Session.AtRest (past : List Happening) (session : Session) : Prop :=
  session = {} ∨ session.connected = true ∧ Presumed past

/-- How the session and the past stand while the operation is on the stack. -/
def Operation.Moored (past : List Happening) (session : Session) : Operation → Prop
  | connect task =>
    session.connected = false ∧
      (task.stage = .connecting → session.server.isSome = true ∧ Dialing past)
  | disconnect task =>
    session.connected = true ∧ if task.waiting then Closing past else Presumed past
  | sleep _ => session.connected = false
  | _ => session.connected = true ∧ Presumed past

namespace Session.Sensible

variable {before after session : Session} {heading : Option RemotePath}

theorem empty : Sensible {} := ⟨by rintro ⟨⟩, by rintro ⟨⟩, by rintro _ ⟨⟩⟩

theorem stays (sensible : Sensible before) (stays : Stays heading before after)
    (connected : heading.isSome = true → before.connected = true)
    (specified : ∀ path, heading = some path → path.isUnspecified = false) : Sensible after where
  server := by
    rw [stays.server, stays.connected]
    exact sensible.server
  directory := by
    intro known
    obtain ⟨path, known⟩ := Option.isSome_iff_exists.1 known
    rw [stays.connected]
    rcases stays.directory path known with before | headed
    · exact sensible.directory (by rw [before]; rfl)
    · exact connected (by rw [headed]; rfl)
  specified := by
    intro path known
    rcases stays.directory path known with before | headed
    · exact sensible.specified path before
    · exact specified path headed

theorem afterEnd (sensible : Sensible session) (kind : CommandKind) (reply : Reply) :
    Sensible (session.afterEnd kind reply) := by
  unfold Session.afterEnd
  split
  · exact empty
  · exact sensible

end Session.Sensible

namespace Operation

variable {operation parent child : Operation} {past made : List Happening}
  {session after : Session}

theorem sendsLines_iff : operation.sendsLines = true ↔
    operation.isConnection = false ∧ operation.kind ≠ .sleep := by
  cases operation <;> simp [sendsLines, isConnection, kind]

theorem moored_iff (sends : operation.sendsLines = true) :
    operation.Moored past session ↔ session.connected = true ∧ Presumed past := by
  cases operation <;> first | rfl | cases sends

theorem Moored.linked (moored : operation.Moored past session)
    (sends : operation.sendsLines = true) : session.connected = true ∧ Presumed past :=
  (moored_iff sends).1 moored

/-- What happens to the operation on top leaves the others moored. -/
theorem Moored.append (moored : operation.Moored past session)
    (h : operation.isConnection = true → operation.isRetrying = true)
    (connected : after.connected = session.connected)
    (keeps : ∀ happening ∈ made, happening.isCut = false) :
    operation.Moored (made ++ past) after := by
  by_cases sends : operation.sendsLines = true
  · obtain ⟨up, presumed⟩ := moored.linked sends
    exact (moored_iff sends).2 ⟨connected.trans up, presumed.append keeps⟩
  · cases operation with
    | connect task =>
        have retries : task.stage = .retryWait := by simpa [isRetrying] using h rfl
        refine ⟨connected.trans moored.1, ?_⟩
        intro stage
        rw [retries] at stage
        cases stage
    | disconnect task => exact absurd (h rfl) (by simp [isRetrying])
    | sleep task => exact connected.trans moored
    | _ => exact absurd rfl sends

theorem Moored.waits (moored : operation.Moored past session)
    (waited : ∀ happening ∈ made, happening.isWait = true) :
    operation.Moored (made ++ past) session := by
  have keeps : ∀ happening ∈ made, happening.isCut = false := fun happening mem =>
    Happening.isCut_of_isWait (waited happening mem)
  cases operation with
  | connect task =>
      refine ⟨moored.1, ?_⟩
      intro stage
      exact ⟨(moored.2 stage).1, (moored.2 stage).2.append waited⟩
  | disconnect task =>
      refine ⟨moored.1, ?_⟩
      have stands := moored.2
      by_cases waiting : task.waiting = true
      · rw [if_pos waiting] at stands ⊢
        exact stands.append waited
      · rw [if_neg waiting] at stands ⊢
        exact stands.append keeps
  | sleep task => exact moored
  | _ => exact ⟨moored.1, moored.2.append keeps⟩

theorem Moored.withChannel (moored : operation.Moored past session) (channel : Local.Channel) :
    (operation.withChannel channel).Moored past session := by
  cases operation <;> exact moored

theorem IsHeaded.withChannel (headed : operation.IsHeaded) (channel : Local.Channel) :
    (operation.withChannel channel).IsHeaded := by
  cases operation <;> exact headed

theorem withChannel_succeeds (operation : Operation) (channel : Local.Channel) :
    (operation.withChannel channel).Succeeds operation := by
  cases operation with
  | transfer task => exact .of_command rfl rfl
  | _ => exact ⟨rfl, fun _ waits => waits⟩

/-- Who waits to enter a directory sends lines. -/
theorem sendsLines_of_entering {path : RemotePath} (h : operation.entering? = some path) :
    operation.sendsLines = true := by
  cases operation <;> first | rfl | cases h

/-- A subcommand is moored where the one who asked for it is. -/
theorem Moored.of_asked (moored : parent.Moored past session) (waits : parent.WaitsFor child) :
    child.Moored past session := by
  cases child with
  | sleep task =>
      obtain ⟨connect, rfl, -⟩ := isRetrying_eq_true waits
      exact moored.1
  | changeDir task => exact moored.linked (sendsLines_of_entering waits)
  | _ => exact waits.elim

theorem isHeaded_of_command (command : operation.isSubcommand = false) : operation.IsHeaded := by
  cases operation <;> first | (rintro _ ⟨⟩) | cases command

/-- A subcommand that has something to do is not out yet. -/
theorem WaitsFor.isHeaded (waits : parent.WaitsFor child) (acts : child.acts = true) :
    child.IsHeaded := by
  cases child with
  | changeDir task =>
      have idle : task.waiting = false := by simpa [Operation.acts] using acts
      intro path headed
      simp [heading?, idle] at headed
  | _ => rintro _ ⟨⟩

/-- All commands but that to connect need a connection. -/
theorem Moored.connected (moored : operation.Moored past session)
    (command : operation.isSubcommand = false) (other : operation.kind ≠ .connect) :
    session.connected = true := by
  cases operation with
  | connect task => exact absurd rfl other
  | sleep task => cases command
  | _ => exact moored.1

/-- Once the command is given up, the connection is presumed to be there, even if the transport was
asked to close it. -/
theorem Moored.canceled (moored : operation.Moored past session)
    (command : operation.isSubcommand = false) (other : operation.kind ≠ .connect) :
    Presumed (.canceled :: past) := by
  cases operation with
  | connect task => exact absurd rfl other
  | sleep task => cases command
  | disconnect task =>
      have stands := moored.2
      by_cases waiting : task.waiting = true
      · rw [if_pos waiting] at stands
        obtain ⟨waits, before, rfl, waited, presumed⟩ := stands
        exact .recalled waited presumed
      · rw [if_neg waiting] at stands
        exact .since rfl stands
  | _ => exact .since rfl moored.2

end Operation

/-! ## Steps -/

variable {τ : Type} {good : Transport.States τ} {start desk : Desk τ Operation}
  {operation : Operation} {below : List Operation} {past : List Happening} {reply : Reply}

/-- The step leaves the session sensible, and everything on the stack moored. -/
structure Step.Moored (below : List Operation) (step : Step τ Operation Operation) : Prop where
  sensible : step.desk.session.Sensible
  lines : LinesPresumed step.desk.past
  moored : step.reply = .again ∨ step.reply = .wouldBlock →
    step.operation.Moored step.desk.past step.desk.session
  others : ∀ operation ∈ below, operation.Moored step.desk.past step.desk.session
  goesOn : step.reply = .again → step.desk.session.connected = true → Presumed step.desk.past
  ended : step.reply ≠ .again → step.reply ≠ .wouldBlock → below = [] →
    (step.desk.session.afterEnd step.operation.kind step.reply).AtRest step.desk.past

theorem Operation.isCut_of_makes {request : Happening} (plain : operation.isConnection = false)
    (own : operation.makes request = true) : request.isCut = false := by
  cases request with
  | disconnecting answer =>
      have closes : operation.kind = .disconnect := of_decide_eq_true own
      rw [Operation.isConnection_iff.2 (.inr closes)] at plain
      cases plain
  | connectionLost => cases own
  | _ => rfl

theorem Desk.Works.past_keeps (works : start.Works good operation desk) :
    ∃ made, desk.past = made ++ start.past ∧
      (∀ happening ∈ made, happening.isCut = false) ∧
        ∀ happening ∈ made, happening.line? = none := by
  obtain ⟨made, all, past⟩ := works.past
  refine ⟨made, past, ?_, ?_⟩
  · intro happening mem
    exact Happening.isCut_of_isWork (all happening mem)
  · intro happening mem
    exact Happening.line?_of_isWork (all happening mem)

/-- A step that leaves the connection alone does not cut it, and sends lines only where there is
presumed to be one. -/
theorem Step.Does.past_keeps {step : Step τ Operation Operation}
    (does : step.Does good operation start) (plain : operation.isConnection = false)
    (lines : LinesPresumed start.past)
    (presumed : operation.sendsLines = true → Presumed start.past) :
    LinesPresumed step.desk.past ∧
      ∃ made, step.desk.past = made ++ start.past ∧
        ∀ happening ∈ made, happening.isCut = false := by
  cases does with
  | rests works =>
      obtain ⟨made, past, keeps, silent⟩ := works.past_keeps
      exact ⟨past ▸ lines.append silent, made, past, keeps⟩
  | asks works again waits acts asked =>
      obtain ⟨made, past, keeps, silent⟩ := works.past_keeps
      rw [asked, Desk.request_past]
      exact ⟨past ▸ lines.append silent, made, past, keeps⟩
  | @requests before request works own waits past pending transport session =>
      obtain ⟨made, earlier, keeps, silent⟩ := works.past_keeps
      rw [past, earlier]
      refine ⟨⟨?_, lines.append silent⟩, request :: made, rfl, ?_⟩
      · intro sent
        refine (presumed ?_).append keeps
        cases request <;> first | exact own | cases sent
      · exact List.forall_mem_cons.2 ⟨Operation.isCut_of_makes plain own, keeps⟩

/-- A step of an operation that neither makes nor closes the connection. -/
theorem Step.Does.moored {step : Step τ Operation Operation}
    (does : step.Does good operation start) (same : step.operation.kind = operation.kind)
    (plain : operation.isConnection = false) (sensible : start.session.Sensible)
    (headed : operation.IsHeaded) (lines : LinesPresumed start.past)
    (moored : ∀ op ∈ operation :: below, op.Moored start.past start.session)
    (others : ∀ op ∈ below, op.isConnection = true → op.isRetrying = true)
    (command : below = [] → operation.isSubcommand = false) : step.Moored below := by
  have own := moored operation List.mem_cons_self
  have stays := does.session plain
  obtain ⟨lines', made, past, keeps⟩ :=
    does.past_keeps plain lines fun sends => (own.linked sends).2
  -- an operation of the same kind stands as this one did
  have after : step.operation.Moored step.desk.past step.desk.session := by
    by_cases asleep : operation.kind = .sleep
    · cases now : step.operation with
      | sleep task =>
          cases operation with
          | sleep former => exact stays.connected.trans own
          | _ => cases asleep
      | _ => rw [now, asleep] at same; cases same
    · have sends : step.operation.sendsLines = true := by
        rw [Operation.sendsLines_iff, same]
        refine ⟨?_, asleep⟩
        rw [Bool.eq_false_iff, Ne, Operation.isConnection_iff, same, ← Operation.isConnection_iff]
        simpa using plain
      obtain ⟨up, presumed⟩ := own.linked (Operation.sendsLines_iff.2 ⟨plain, asleep⟩)
      rw [Operation.moored_iff sends, past]
      exact ⟨stays.connected.trans up, presumed.append keeps⟩
  refine ⟨?_, lines', fun _ => after, ?_, ?_, ?_⟩
  · refine sensible.stays stays ?_ headed
    intro heading
    cases operation with
    | changeDir task => exact own.1
    | _ => cases heading
  · intro op mem
    rw [past]
    exact (moored op (List.mem_cons_of_mem _ mem)).append (others op mem) stays.connected keeps
  · intro _ connected
    by_cases asleep : operation.kind = .sleep
    · cases operation with
      | sleep task =>
          rw [stays.connected, show start.session.connected = false from own] at connected
          cases connected
      | _ => cases asleep
    · rw [past]
      exact (own.linked (Operation.sendsLines_iff.2 ⟨plain, asleep⟩)).2.append keeps
  · intro _ _ empty
    have awake : operation.kind ≠ .sleep := by
      intro asleep
      cases operation with
      | sleep task => cases command empty
      | _ => cases asleep
    obtain ⟨up, presumed⟩ := own.linked (Operation.sendsLines_iff.2 ⟨plain, awake⟩)
    rw [same, Session.afterEnd_of_plain]
    · right
      rw [past]
      exact ⟨stays.connected.trans up, presumed.append keeps⟩
    · rintro (⟨connects, -⟩ | closes)
      · rw [Operation.isConnection_iff.2 (.inl connects)] at plain
        cases plain
      · rw [Operation.isConnection_iff.2 (.inr closes)] at plain
        cases plain

/-! ### Connecting and disconnecting -/

section Connections

variable [Transport τ] {ends : Reply → Prop} {κ : Type} {f : κ → Operation} {task : κ}

omit [Transport τ] in
/-- The step ends a command that makes or closes the connection. -/
theorem Step.Moored.of_end (desk : Desk τ Operation) (sensible : desk.session.Sensible)
    (lines : LinesPresumed desk.past) (again : reply ≠ .again) (wait : reply ≠ .wouldBlock)
    (rest : (desk.session.afterEnd (f task).kind reply).AtRest desk.past) :
    ((desk.answer reply task).map f).Moored [] where
  sensible := sensible
  lines := lines
  moored := fun h => (h.elim again wait).elim
  others := List.forall_mem_nil _
  goesOn := fun h => absurd h again
  ended := fun _ _ _ => rest

omit [Transport τ] in
theorem atRest_of_failed {session : Session} (failed : reply ≠ .ok) :
    (session.afterEnd .connect reply).AtRest past := by
  left
  rw [Session.afterEnd, if_pos (.inl ⟨rfl, failed⟩)]

omit [Transport τ] in
theorem atRest_of_disconnect {session : Session} :
    (session.afterEnd .disconnect reply).AtRest past := by
  left
  rw [Session.afterEnd, if_pos (.inr rfl)]

omit [Transport τ] in
theorem Step.Moored.of_unexpected (sensible : desk.session.Sensible)
    (lines : LinesPresumed desk.past) (kind : CommandKind) (stage event : String)
    (connection : (f task).isConnection = true) :
    ((desk.unexpected kind stage event task).map f).Moored [] := by
  refine Step.Moored.of_end (desk.note _ _) sensible lines (by decide) (by decide) ?_
  rcases Operation.isConnection_iff.1 connection with connects | closes
  · rw [connects]
    exact atRest_of_failed (by decide)
  · rw [closes]
    exact atRest_of_disconnect

omit [Transport τ] in
/-- As long as a connection is being made there is none. -/
theorem Step.Moored.of_down (desk : Desk τ Operation) {task : ConnectTask}
    (sensible : desk.session.Sensible) (lines : LinesPresumed desk.past)
    (down : desk.session.connected = false)
    (dials : reply = .again ∨ reply = .wouldBlock → task.stage = .connecting →
      desk.session.server.isSome = true ∧ Dialing desk.past)
    (failed : reply ≠ .again → reply ≠ .ok) :
    ((desk.answer reply task).map .connect).Moored [] where
  sensible := sensible
  lines := lines
  moored := fun h => ⟨down, dials h⟩
  others := List.forall_mem_nil _
  goesOn := by
    intro _ connected
    rw [show desk.session.connected = true from connected] at down
    cases down
  ended := fun again _ _ => atRest_of_failed (failed again)

theorem ConnectTask.send_moored
    (starts : Transport.Answers good (fun reply => reply = .wouldBlock ∨ reply.isError = true) ends)
    (task : ConnectTask) (transport : good desk.transport) (sensible : desk.session.Sensible)
    (lines : LinesPresumed desk.past) : ((task.send desk).map .connect).Moored [] := by
  have answer := (starts.connect _ task.request.server task.request.credentials transport).1
  unfold send
  split
  · let asked : Desk τ Operation :=
      { desk.note .info ("Connecting to " ++ task.request.server.text) with
        session := { server := some task.request.handle } }
    have sensible' : asked.session.Sensible := ⟨by rintro ⟨⟩, by rintro ⟨⟩, by rintro _ ⟨⟩⟩
    refine Step.Moored.of_down
      (asked.connect task.request.server task.request.credentials task).desk sensible'
      ⟨by rintro ⟨⟩, lines⟩ rfl ?_ ?_
    · rintro (again | wait) -
      · exact absurd again (Reply.ne_again_of_start answer)
      · refine ⟨rfl, ?_⟩
        have blocks : (Transport.connect desk.transport task.request.server
          task.request.credentials).1 = .wouldBlock := wait
        change Dialing (.connecting _ _ (Transport.connect desk.transport task.request.server
          task.request.credentials).1 :: _)
        rw [blocks]
        exact .asked
    · intro _ ok
      rcases answer with blocks | failed
      · exact absurd (ok.symm.trans blocks) Reply.ok_ne_wouldBlock
      · exact Reply.ne_ok_of_isError failed ok
  · exact .of_unexpected sensible lines _ _ _ rfl
  · exact .of_unexpected sensible lines _ _ _ rfl

theorem ConnectTask.completed_moored (env : Env) (task : ConnectTask)
    (sensible : desk.session.Sensible) (lines : LinesPresumed desk.past)
    (happened : desk.past = .completed desk.result :: past)
    (moored : (Operation.connect task).Moored past desk.session) :
    ((task.completed env desk).map .connect).Moored [] := by
  obtain ⟨down, dials⟩ := moored
  unfold completed
  split
  · rename_i stage
    obtain ⟨server, dialing⟩ := dials stage
    simp only
    split
    · rename_i ok
      refine Step.Moored.of_end
        { desk.note .info _ with session := { desk.session with connected := true } }
        ⟨fun _ => server, fun _ => rfl, sensible.specified⟩ lines (by decide) (by decide) ?_
      refine .inr ⟨rfl, ?_⟩
      change Presumed desk.past
      rw [happened, ok]
      exact .connected dialing
    · rename_i failed
      split
      · exact Step.Moored.of_end (desk.note _ _) sensible lines (by decide) (by decide)
          (atRest_of_failed (by decide))
      · split
        · refine Step.Moored.of_down desk sensible lines down ?_ (fun _ => failed)
          -- what decides nothing leaves the request under way
          intro disposition _
          refine ⟨server, ?_⟩
          rw [happened]
          refine .undecided ?_ dialing
          simpa [Reply.isDisposition] using disposition
        · refine Step.Moored.of_down _ (by simpa [Desk.sleep] using sensible)
            (by simpa [Desk.sleep] using lines) (by simpa [Desk.sleep] using down) ?_ ?_
          · intro _ stage
            cases stage
          · intro stops
            exact absurd rfl stops
  · exact .of_unexpected sensible lines _ _ _ rfl
  · exact .of_unexpected sensible lines _ _ _ rfl

omit [Transport τ] in
theorem ConnectTask.returned_moored (reply : Reply) (finished : Operation) (task : ConnectTask)
    (sensible : desk.session.Sensible) (lines : LinesPresumed desk.past)
    (moored : (Operation.connect task).Moored past desk.session) :
    ((task.returned reply finished desk).map .connect).Moored [] := by
  unfold returned
  split
  · rename_i retries
    split
    · refine Step.Moored.of_down desk sensible lines moored.1 ?_ ?_
      · intro _ stage
        cases stage
      · intro stops
        exact absurd rfl stops
    · rename_i failed
      refine Step.Moored.of_down (desk.note _ _) sensible lines moored.1 ?_ (fun _ => failed)
      intro _ stage
      rw [retries.1] at stage
      cases stage
  · exact .of_unexpected sensible lines _ _ _ rfl

theorem DisconnectTask.send_moored (task : DisconnectTask) (sensible : desk.session.Sensible)
    (lines : LinesPresumed desk.past)
    (moored : (Operation.disconnect task).Moored desk.past desk.session) :
    ((task.send desk).map .disconnect).Moored [] := by
  have asked : LinesPresumed (desk.note .info "Disconnecting").disconnect.2.past :=
    ⟨by rintro ⟨⟩, lines⟩
  unfold send
  split
  · exact .of_unexpected sensible lines _ _ _ rfl
  · rename_i idle
    have presumed : Presumed desk.past := by simpa [idle] using moored.2
    simp only
    split
    · rename_i blocks
      have closing : Closing (desk.note .info "Disconnecting").disconnect.2.past := by
        have answer : (Transport.disconnect (desk.note .info "Disconnecting").transport).1 =
            .wouldBlock := blocks
        rw [Desk.disconnect_past, answer]
        exact ⟨[], desk.past, rfl, List.forall_mem_nil _, presumed⟩
      refine ⟨sensible, asked, fun _ => ⟨moored.1, closing⟩, List.forall_mem_nil _, ?_, ?_⟩
      · intro again
        exact absurd (again.symm.trans blocks) Reply.again_ne_wouldBlock
      · intro _ wait _
        exact absurd blocks wait
    · refine Step.Moored.of_end _ .empty ?_ (by decide) (by decide) atRest_of_disconnect
      split
      · exact asked
      · exact asked

omit [Transport τ] in
theorem DisconnectTask.completed_moored (task : DisconnectTask)
    (sensible : desk.session.Sensible) (lines : LinesPresumed desk.past) :
    ((task.completed desk).map .disconnect).Moored [] := by
  unfold completed
  split
  · exact Step.Moored.of_end { desk with session := {} } .empty lines (by decide)
      (by decide) atRest_of_disconnect
  · exact .of_unexpected sensible lines _ _ _ rfl

end Connections

/-! ## Along the turns of a call -/

section Turns

variable [Transport τ] {ends : Reply → Prop}

namespace Turn

omit [Transport τ] in
/-- What is below the topmost operation is no subcommand. -/
theorem FitsBelow.not_isSubcommand {top : Operation} (fits : FitsBelow top below)
    (mem : operation ∈ below) : operation.isSubcommand = false := by
  rcases fits with ⟨rfl, -⟩ | ⟨parent, rfl, waits⟩
  · cases mem
  · obtain rfl := List.mem_singleton.1 mem
    exact waits.not_isSubcommand

/-- What is known of the session and of everything on the stack when the topmost operation is about
to be told the event. A report that has just come in may concern it. -/
structure Moored (good : Transport.States τ) (turn : Turn τ Operation) : Prop where
  transport : good turn.desk.transport
  below : FitsBelow turn.top turn.below
  sensible : turn.desk.session.Sensible
  headed : turn.top.IsHeaded
  lines : LinesPresumed turn.desk.past
  moored : match turn.event with
    | .completed => ∃ past, turn.desk.past = .completed turn.desk.result :: past ∧
        ∀ operation ∈ turn.top :: turn.below, operation.Moored past turn.desk.session
    | .send | .returned _ _ => ∀ operation ∈ turn.top :: turn.below,
        operation.Moored turn.desk.past turn.desk.session

variable {turn after : Turn τ Operation} {env : Env}

/-- The step of an operation that makes or closes the connection, which stands alone. -/
theorem Moored.step_of_connection
    (starts : Transport.Answers good (fun reply => reply = .wouldBlock ∨ reply.isError = true) ends)
    (moored : turn.Moored good) (env : Env) (connection : turn.top.isConnection = true) :
    (turn.step env).Moored turn.below := by
  obtain ⟨budget, below, event, top, desk⟩ := turn
  obtain ⟨transport, under, sensible, headed, lines, told⟩ := moored
  obtain rfl : below = [] := under.of_isConnection connection
  cases top with
  | connect task =>
      cases event with
      | send => exact ConnectTask.send_moored starts task transport sensible lines
      | completed =>
          obtain ⟨past, happened, stands⟩ := told
          show ((task.completed env { desk with pending := none }).map Operation.connect).Moored []
          exact ConnectTask.completed_moored env task sensible lines happened
            (stands _ List.mem_cons_self)
      | returned reply finished =>
          exact ConnectTask.returned_moored reply finished task sensible lines
            (told _ List.mem_cons_self)
  | disconnect task =>
      cases event with
      | send =>
          show ((task.send { desk with pending := none }).map Operation.disconnect).Moored []
          exact DisconnectTask.send_moored task sensible lines (told _ List.mem_cons_self)
      | completed => exact DisconnectTask.completed_moored task sensible lines
      | returned reply finished =>
          -- nothing it could wait for ever ends
          show ((Operation.unexpectedReturn reply finished (.disconnect task)
            { desk with pending := none }).map id).Moored []
          exact .of_end _ sensible lines (by decide) (by decide) atRest_of_disconnect
  | _ => cases connection

/-- The step of any other operation. -/
theorem Moored.step_of_plain
    (starts : Transport.Answers good (fun reply => reply = .wouldBlock ∨ reply.isError = true) ends)
    (moored : turn.Moored good) (env : Env) (plain : turn.top.isConnection = false) :
    (turn.step env).Moored turn.below := by
  obtain ⟨budget, below, event, top, desk⟩ := turn
  obtain ⟨transport, under, sensible, headed, lines, told⟩ := moored
  let start : Desk τ Operation := { desk with pending := none }
  have others : ∀ op ∈ below, op.isConnection = true → op.isRetrying = true := fun op mem =>
    under.isRetrying mem
  have stands : ∀ op ∈ top :: below, op.Moored start.past start.session := by
    cases event with
    | send => exact told
    | returned reply finished => exact told
    | completed =>
        -- nobody on the stack waits for this report to hear of the connection
        obtain ⟨past, happened, stands⟩ := told
        intro op mem
        show op.Moored desk.past desk.session
        rw [happened]
        show op.Moored ([.completed desk.result] ++ past) desk.session
        refine (stands op mem).append ?_ rfl (List.forall_mem_singleton.2 rfl)
        intro connection
        rcases List.mem_cons.1 mem with rfl | mem
        · rw [plain] at connection
          cases connection
        · exact others op mem connection
  have command : below = [] → top.isSubcommand = false := by
    rintro rfl
    rcases under with ⟨-, command⟩ | ⟨parent, impossible, -⟩
    · exact command
    · cases impossible
  have does : (Operation.step env event top start).Does good top start :=
    Operation.step_does starts env event top transport rfl
  exact does.moored (Operation.step_kind env event top start) plain sensible headed lines stands
    others command

theorem Moored.step
    (starts : Transport.Answers good (fun reply => reply = .wouldBlock ∨ reply.isError = true) ends)
    (moored : turn.Moored good) (env : Env) : (turn.step env).Moored turn.below := by
  by_cases connection : turn.top.isConnection = true
  · exact moored.step_of_connection starts env connection
  · exact moored.step_of_plain starts env (by simpa using connection)

theorem Moored.next
    (starts : Transport.Answers good (fun reply => reply = .wouldBlock ∨ reply.isError = true) ends)
    (moored : turn.Moored good) (next : turn.next env = .inr after) : after.Moored good := by
  have stepped := moored.step starts env
  have does := step_does starts moored.transport env
  have transport := does.good_transport
  have headed : (turn.step env).operation.IsHeaded :=
    Operation.step_isHeaded env turn.event moored.headed _
  have below := moored.below.next starts moored.transport next
  rcases Step.next_eq_inr next with ⟨again, left, -, rfl⟩ | ⟨ends, wait, -, parent, rest, eq, rfl⟩
  · have own := stepped.moored (.inl again)
    unfold Step.onward at below ⊢
    rw [Step.noted_pending] at below ⊢
    cases pending : (turn.step env).desk.pending with
    | some child =>
        obtain ⟨-, waits, acts⟩ := does.waitsFor pending
        simp only [pending] at below
        refine ⟨transport, below, stepped.sensible, waits.isHeaded acts, stepped.lines, ?_⟩
        refine List.forall_mem_cons.2 ⟨own.of_asked waits, ?_⟩
        exact List.forall_mem_cons.2 ⟨own, stepped.others⟩
    | none =>
        simp only [pending] at below
        refine ⟨transport, below, stepped.sensible, headed, stepped.lines, ?_⟩
        exact List.forall_mem_cons.2 ⟨own, stepped.others⟩
  · have others := stepped.others
    rw [eq] at others
    have waiting : parent ∈ turn.below := by simp [eq]
    exact ⟨transport, below, stepped.sensible,
      Operation.isHeaded_of_command (moored.below.not_isSubcommand waiting), stepped.lines, others⟩

end Turn

end Turns

/-! ## Between the calls -/

namespace Engine

/-- What is known of the session and of everything on the stack between two calls. -/
structure Moored (good : Transport.States τ) (engine : Engine τ Operation) : Prop where
  transport : good engine.desk.transport
  below : ∀ top below, engine.stack = top :: below → Turn.FitsBelow top below
  sensible : engine.desk.session.Sensible
  headed : ∀ operation ∈ engine.stack, operation.IsHeaded
  lines : LinesPresumed engine.desk.past
  moored : ∀ operation ∈ engine.stack, operation.Moored engine.desk.past engine.desk.session
  rest : engine.stack = [] → engine.desk.session.AtRest engine.desk.past

/-- With nothing to do, there is little to know. -/
theorem Moored.of_empty {engine : Engine τ Operation} (empty : engine.stack = [])
    (transport : good engine.desk.transport) (sensible : engine.desk.session.Sensible)
    (lines : LinesPresumed engine.desk.past)
    (rest : engine.desk.session.AtRest engine.desk.past) : engine.Moored good := by
  refine ⟨transport, ?_, sensible, ?_, lines, ?_, fun _ => rest⟩
  · intro top below stack
    rw [empty] at stack
    cases stack
  · simp [empty]
  · simp [empty]

/-- At the bottom of the stack is the operation of the command. -/
theorem exists_bottom {top : Operation} {below : List Operation}
    (fits : Turn.FitsBelow top below) : ∃ bottom ∈ top :: below,
      (top :: below).getLast? = some bottom ∧ bottom.isSubcommand = false := by
  rcases fits with ⟨rfl, command⟩ | ⟨parent, rfl, waits⟩
  · exact ⟨top, List.mem_cons_self, rfl, command⟩
  · exact ⟨parent, List.mem_cons_of_mem _ List.mem_cons_self, rfl, waits.not_isSubcommand⟩

variable [Transport τ] {ends : Reply → Prop}

/-- The operation of a command that is served begins moored. -/
theorem moored_of_served {command : Command} {protocol : Protocol} {session : Session}
    (served : protocolFor session command = .ok protocol)
    (offered : Operation.ofCommand? command protocol = some operation)
    (rest : session.AtRest past) : operation.Moored past session ∧ operation.IsHeaded := by
  have linked : (∀ request, command ≠ .connect request) →
      session.connected = true ∧ Presumed past := by
    intro other
    have connected := connected_of_served served other
    rcases rest with rfl | linked
    · cases connected
    · exact linked
  unfold Operation.ofCommand? at offered
  split at offered <;> cases offered
  · exact ⟨⟨not_connected_of_served served, by rintro ⟨⟩⟩, by rintro _ ⟨⟩⟩
  all_goals exact ⟨linked (by rintro _ ⟨⟩), by rintro _ ⟨⟩⟩

theorem Moored.opening {engine : Engine τ Operation} {call : Call} {first : Turn τ Operation}
    (moored : engine.Moored good) (h : engine.opening call = some first) : first.Moored good := by
  rcases opening_eq_some h with ⟨command, operation, rfl, accepted, rfl⟩ |
    ⟨top, below, rfl, stack, rfl⟩
  · obtain ⟨idle, -, protocol, served, offered⟩ := accept_eq_ok accepted
    have rest : engine.desk.session.AtRest (.started command :: engine.desk.past) :=
      (moored.rest idle).imp_right fun linked => ⟨linked.1, .since rfl linked.2⟩
    obtain ⟨stands, headed⟩ := moored_of_served served offered rest
    obtain ⟨-, plain⟩ := Operation.ofCommand?_eq_some offered
    exact ⟨moored.transport, .inl ⟨rfl, plain⟩, moored.sensible, headed,
      ⟨by rintro ⟨⟩, moored.lines⟩, List.forall_mem_singleton.2 stands⟩
  · refine ⟨moored.transport, moored.below top below stack, moored.sensible,
      moored.headed top (by simp [stack]), ⟨by rintro ⟨⟩, moored.lines⟩,
      engine.desk.past, rfl, ?_⟩
    exact stack ▸ moored.moored

/-- What giving up the stack leaves of a session that makes sense. -/
theorem abandon_moored (env : Env) (stack : List Operation) (desk : Desk τ Operation)
    (sensible : desk.session.Sensible) (lines : LinesPresumed desk.past)
    (bottom : stack.getLast?.map Operation.kind ≠ some .connect →
      desk.session.connected = true ∧ Presumed desk.past) :
    (abandon env stack desk).session.Sensible ∧ LinesPresumed (abandon env stack desk).past ∧
      (abandon env stack desk).session.AtRest (abandon env stack desk).past := by
  obtain ⟨after, doubts, eq⟩ := abandon_doubts env stack desk
  obtain ⟨made, all, past⟩ := doubts.past
  have lines' : LinesPresumed after.past := past ▸ lines.append fun happening mem =>
    Happening.line?_of_isDoubt (all happening mem)
  rw [eq]
  split
  · exact ⟨.empty, lines', .inl rfl⟩
  · rename_i other
    obtain ⟨connected, presumed⟩ := bottom other
    have session : after.session = desk.session := doubts.session
    refine ⟨session ▸ sensible, lines', .inr ⟨session ▸ connected, ?_⟩⟩
    change Presumed after.past
    rw [past]
    exact presumed.append fun happening mem => Happening.isCut_of_isDoubt (all happening mem)

/-- Where a turn ends the call, everything is moored. -/
theorem moored_of_next {turn : Turn τ Operation} {outcome : Outcome τ Operation} {env : Env}
    (starts : Transport.Answers good (fun reply => reply = .wouldBlock ∨ reply.isError = true) ends)
    (moored : turn.Moored good) (next : turn.next env = .inl outcome)
    (engine : Engine τ Operation) : (engine.take outcome).2.Moored good := by
  have stepped := moored.step starts env
  have does := Turn.step_does starts moored.transport env
  have transport := does.good_transport
  have fits : Turn.FitsBelow (turn.step env).operation turn.below :=
    moored.below.succeeds (Turn.step_succeeds env turn)
  rcases Step.next_eq_inl next with ⟨again, -, rfl⟩ | ⟨stops, child, asked, -⟩ | ⟨wait, -, rfl⟩ |
    ⟨stops, settles, -, empty, rfl⟩
  · have stands : ∀ op ∈ (turn.step env).operation :: turn.below,
        op.Moored (turn.step env).desk.past (turn.step env).desk.session :=
      List.forall_mem_cons.2 ⟨stepped.moored (.inl again), stepped.others⟩
    have linked : ((turn.step env).operation :: turn.below).getLast?.map Operation.kind ≠
        some .connect → (turn.step env).desk.session.connected = true ∧
          Presumed (turn.step env).desk.past := by
      intro other
      obtain ⟨bottom, mem, last, command⟩ := exists_bottom fits
      rw [last] at other
      have connected := (stands bottom mem).connected command fun is => other (congrArg some is)
      exact ⟨connected, stepped.goesOn again connected⟩
    obtain ⟨sensible, lines, rest⟩ := abandon_moored env
      ((turn.step env).operation :: turn.below) ((turn.step env).noted.note .error _)
      stepped.sensible stepped.lines linked
    refine .of_empty rfl ?_ sensible lines rest
    exact (congrArg good.keeps (abandon_transport ..)).mpr transport
  · exact absurd (does.waitsFor asked).1 stops
  · refine ⟨transport, ?_, stepped.sensible, ?_, stepped.lines, ?_, by rintro ⟨⟩⟩
    · rintro top below ⟨⟩
      exact fits
    · refine List.forall_mem_cons.2 ⟨?_, ?_⟩
      · exact Operation.step_isHeaded env turn.event moored.headed _
      · intro op mem
        exact Operation.isHeaded_of_command (moored.below.not_isSubcommand mem)
    · exact List.forall_mem_cons.2 ⟨stepped.moored (.inr wait), stepped.others⟩
  · obtain ⟨text, finished⟩ := finish_eq (HasKind.kind (turn.step env).operation)
      (turn.step env).reply (turn.step env).noted
    rw [finished]
    exact .of_empty rfl transport (stepped.sensible.afterEnd _ _) stepped.lines
      (stepped.ended stops settles empty)

theorem Moored.cancel {engine : Engine τ Operation} (moored : engine.Moored good)
    (answers : ∀ t, good t → good (Transport.abort t)) : engine.cancel.2.Moored good := by
  unfold Engine.cancel
  split
  · rename_i busy
    have linked : engine.stack.getLast?.map Operation.kind ≠ some .connect →
        engine.desk.session.connected = true ∧ Presumed (.canceled :: engine.desk.past) := by
      intro other
      cases stack : engine.stack with
      | nil => simp [isBusy, stack] at busy
      | cons top below =>
          obtain ⟨bottom, mem, last, command⟩ := exists_bottom (moored.below top below stack)
          rw [stack, last] at other
          have stands := moored.moored bottom (stack ▸ mem)
          have notConnect : bottom.kind ≠ .connect := fun is => other (congrArg some is)
          exact ⟨stands.connected command notConnect, stands.canceled command notConnect⟩
    obtain ⟨sensible, lines, rest⟩ := abandon_moored engine.env engine.stack
      ((engine.desk.record .canceled).note .info "Command canceled") moored.sensible
      ⟨by rintro ⟨⟩, moored.lines⟩ linked
    refine .of_empty rfl (answers _ ?_) sensible ⟨by rintro ⟨⟩, lines⟩ ?_
    · exact (congrArg good.keeps (abandon_transport ..)).mpr moored.transport
    · exact rest.imp_right fun linked => ⟨linked.1, .since rfl linked.2⟩
  · exact moored

theorem Moored.connectionLost {engine : Engine τ Operation} (moored : engine.Moored good) :
    engine.connectionLost.2.Moored good := by
  have lines : LinesPresumed (engine.desk.record .connectionLost).past :=
    ⟨by rintro ⟨⟩, moored.lines⟩
  unfold Engine.connectionLost
  split
  · obtain ⟨doubts, all, past⟩ := abandon_past engine.env engine.stack
      ((engine.desk.record .connectionLost).note .warn
        "connection lost while a command was in progress")
    refine .of_empty rfl ?_ .empty ?_ (.inl rfl)
    · exact (congrArg good.keeps (abandon_transport ..)).mpr moored.transport
    · refine (congrArg LinesPresumed past).mpr (lines.append ?_)
      intro happening mem
      exact Happening.line?_of_isDoubt (all happening mem)
  · rename_i idle
    exact .of_empty (by simpa [isBusy] using idle) moored.transport .empty lines (.inl rfl)

theorem Moored.make {engine : Engine τ Operation}
    (starts : Transport.Answers good (fun reply => reply = .wouldBlock ∨ reply.isError = true) ends)
    (moored : engine.Moored good) (call : Call) : (engine.make call).2.Moored good := by
  refine make_rule (P := Moored good) call ?_ (moored.cancel starts.abort) moored.connectionLost
    moored ?_
  · intro first opened
    refine Turn.rule (P := Turn.Moored good)
      (Q := fun outcome => (engine.take outcome).2.Moored good) ?_ ?_ (moored.opening opened)
    · intro turn after moored next
      exact moored.next starts next
    · intro turn outcome moored next
      exact moored_of_next starts moored next engine
  · intro level text
    exact ⟨moored.transport, moored.below, moored.sensible, moored.headed, moored.lines,
      moored.moored, moored.rest⟩

omit [Transport τ] in
theorem Moored.drifts {engine after : Engine τ Operation} (moored : engine.Moored good)
    (drifts : engine.Drifts good after) : after.Moored good := by
  obtain ⟨waits, all, past⟩ := drifts.past
  have sensible : after.desk.session.Sensible := drifts.session ▸ moored.sensible
  have lines : LinesPresumed after.desk.past := past ▸ moored.lines.append fun happening mem =>
    Happening.line?_of_isWait (all happening mem)
  have stands : ∀ operation ∈ engine.stack,
      operation.Moored after.desk.past after.desk.session := by
    intro operation mem
    rw [drifts.session, past]
    exact (moored.moored operation mem).waits all
  rcases drifts.stack with same | ⟨top, below, channel, before, -, now⟩
  · refine ⟨drifts.transport, same ▸ moored.below, sensible, same ▸ moored.headed, lines,
      same ▸ stands, ?_⟩
    intro empty
    rw [drifts.session, past]
    refine (moored.rest (same ▸ empty)).imp_right fun linked => ⟨linked.1, linked.2.append ?_⟩
    intro happening mem
    exact Happening.isCut_of_isWait (all happening mem)
  · have headed := moored.headed
    have fits := moored.below top below before
    rw [before] at headed stands
    obtain ⟨ownHeaded, othersHeaded⟩ := List.forall_mem_cons.1 headed
    obtain ⟨own, others⟩ := List.forall_mem_cons.1 stands
    refine ⟨drifts.transport, ?_, sensible, ?_, lines, ?_, ?_⟩
    · intro top' below' stack
      obtain ⟨rfl, rfl⟩ := List.cons.inj (now.symm.trans stack)
      exact fits.succeeds (Operation.withChannel_succeeds top channel)
    · rw [now]
      exact List.forall_mem_cons.2 ⟨ownHeaded.withChannel channel, othersHeaded⟩
    · rw [now]
      exact List.forall_mem_cons.2 ⟨own.withChannel channel, others⟩
    · intro empty
      rw [now] at empty
      cases empty

theorem moored_of_reachable {engine : Engine τ Operation}
    (starts : Transport.Answers good (fun reply => reply = .wouldBlock ∨ reply.isError = true) ends)
    (reachable : engine.Reachable good) : engine.Moored good := by
  induction reachable with
  | fresh new transport =>
      refine .of_empty new.stack transport ?_ ?_ (.inl new.session)
      · rw [new.session]
        exact .empty
      · rw [new.past]
        trivial
  | call _ call _ ih => exact ih.make starts call
  | wait _ drifts ih => exact ih.drifts drifts

/-- In every run over a transport with which nothing succeeds at once, however it answers requests
to disconnect and whatever it reports, a line is sent only while there is presumed to be a
connection. That there is one then is certain if no disconnection was given up while it was under
way. Once the transport was asked to close the connection, no line is sent until a new one is made,
unless that very request was given up while it was under way. -/
theorem line_sent_on_connection
    (starts : Transport.Answers good (fun reply => reply = .wouldBlock ∨ reply.isError = true) ends)
    {engine : Engine τ Operation} (reachable : engine.Reachable good) :
    ∀ later line text answer earlier,
      engine.desk.past = later ++ .sent line text answer :: earlier →
        Presumed earlier ∧ (¬ Recalled earlier → Live earlier) ∧
          ∀ between closing former, earlier = between ++ .disconnecting closing :: former →
            Presumed between ∨ closing = .wouldBlock ∧ ∃ since waits,
              between = since ++ .canceled :: waits ∧
                ∀ happening ∈ waits, happening.isWait = true := by
  intro later line text answer earlier past
  have presumed : Presumed earlier := (moored_of_reachable starts reachable).lines.at past rfl
  exact ⟨presumed, presumed.live, fun between closing former => presumed.since_closing⟩

omit [Transport τ] in
/-- Whether a line was the last thing to happen can be computed. -/
theorem exists_sent (past : List Happening)
    (h : (past.head?.bind Happening.line?).isSome = true) :
    ∃ line text answer, past = .sent line text answer :: past.tail := by
  cases past with
  | nil => cases h
  | cons happening earlier =>
      cases happening with
      | sent line text answer => exact ⟨line, text, answer, rfl⟩
      | _ => cases h

/-- A line of the caller, sent after connecting. -/
theorem line_sent_on_connection_raw :
    ∃ engine : Engine Scripted Operation, engine.Reachable Scripted.IsConforming ∧
      ∃ line text answer earlier, engine.desk.past = .sent line text answer :: earlier ∧
        Live earlier := by
  have run := conforming_reachable {} (connecting ++ [.execute (.raw "NOOP")])
  obtain ⟨line, text, answer, past⟩ := exists_sent
    ((rehearsed {}).after (connecting ++ [.execute (.raw "NOOP")])).desk.past (by decide +kernel)
  refine ⟨_, run, line, text, answer, _, past, ?_⟩
  refine (line_sent_on_connection Scripted.conforms run [] line text answer _ past).2.1 ?_
  intro recalled
  exact absurd recalled.any_isCut (by decide +kernel)

/-! ## Giving up a disconnection -/

/-- An engine over a transport that takes its time to close the connection. -/
def lingering : Engine Scripted Operation :=
  { desk := { transport := { disconnects := [.wouldBlock] } } }

/-- The connection is made, its closing is asked for and given up, and a line is sent. -/
def lineAfterDisconnecting : Engine Scripted Operation :=
  lingering.after (connecting ++ [.execute .disconnect, .cancel, .execute (.raw "NOOP")])

/-- After a disconnection that was given up, a line goes out although the transport was asked to
close the connection and no other was made. -/
theorem line_sent_after_disconnecting :
    lineAfterDisconnecting.Reachable Scripted.IsConforming ∧
      ∃ line text answer earlier,
        lineAfterDisconnecting.desk.past = .sent line text answer :: earlier ∧
          ¬ Live earlier := by
  obtain ⟨line, text, answer, past⟩ :=
    exists_sent lineAfterDisconnecting.desk.past (by decide +kernel)
  refine ⟨?_, line, text, answer, _, past, ?_⟩
  · exact Run.after (.fresh ⟨rfl, rfl, rfl⟩
      (.of_unscripted rfl rfl rfl ⟨by decide, by decide⟩)) _
  · intro live
    exact absurd live.latest (by decide +kernel)

end Engine

end Courier
