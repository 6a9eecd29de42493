import ExaServe.Control.Transport.Turns

namespace ExaServe.Control.Listener

open Lib Plan

variable {σ α : Type} {config : ListenerConfig} {callbacks : Callbacks σ α} {moves : σ → σ → Prop}
  {origin : Listener σ} {timed : Time × HeadEvent α}

/-- The event is the answer of the rank the command was issued to, in a session
    that may answer it. -/
def Answers (l : Listener σ) (timed : Time × HeadEvent α) (commandId : String)
    (record : Int × CommandResult) : Prop :=
  ∃ c env info body,
    timed.2 = .frame c env ∧ env.kind = .commandResult ∧ env.senderRank = record.1 ∧
      validateCommandResultPayload env.payload = .ok record.2 ∧ record.2.commandId = commandId ∧
      l.session c = some info ∧ info.registered = true ∧ info.rank = record.1 ∧
      (info.established = true ∨ commandId = info.pendingSnapshotCommandId) ∧
      l.issuedCommands.get? commandId = some (record.1, body) ∧
      Json.lookup "operation" body = some (.str record.2.operation.value)

theorem resultDisagrees_false {result : CommandResult} {issued : List (String × Json)}
    (agrees : resultDisagrees result issued = false) :
    Json.lookup "operation" issued = some (.str result.operation.value) := by
  unfold resultDisagrees isText at agrees
  split at agrees
  · rename_i text found
    rw [found]
    simpa using agrees
  · cases agrees

theorem effect_results_new {l l' : Listener σ} (effect : Effect config callbacks moves origin timed l l')
    {commandId : String} {record : Int × CommandResult}
    (earlier : l.commandResults.get? commandId = some record →
      origin.commandResults.get? commandId = some record ∨
        origin.commandResults.get? commandId = none ∧ Answers origin timed commandId record)
    (now : l'.commandResults.get? commandId = some record) :
    origin.commandResults.get? commandId = some record ∨
      origin.commandResults.get? commandId = none ∧ Answers origin timed commandId record := by
  cases effect with
  | quiet same =>
    rw [same.commandResults] at now
    exact earlier now
  | @stored c info env result body since arrived kind held registered sender parsed asked agrees opened single =>
    dsimp only at now
    rw [Dict.get?_insert] at now
    split at now
    · rename_i named
      subst named
      cases now
      rw [since.commandResults] at single
      rcases prior : origin.commandResults.get? result.commandId with _ | known
      · right
        obtain ⟨before, before_held, core_same⟩ := since.session_before held
        have alike := SessionInfo.alike core_same
        refine ⟨rfl, c, env, before, body, arrived, kind, rfl, parsed, rfl, before_held, ?_, ?_, ?_, ?_,
          resultDisagrees_false agrees⟩
        · rw [← alike.registered, registered]
        · rw [← alike.rank, sender]
        · rwa [← alike.established, ← alike.pendingSnapshotCommandId]
        · rw [← since.issuedCommands, asked, sender]
      · left
        rw [single known prior]
    · exact earlier now
  | _ => exact earlier now

theorem effect_results_kept {l l' : Listener σ} (effect : Effect config callbacks moves origin timed l l')
    {commandId : String} {record : Int × CommandResult}
    (earlier : l.commandResults.get? commandId = some record) :
    l'.commandResults.get? commandId = some record := by
  cases effect with
  | quiet same =>
    rw [same.commandResults]
    exact earlier
  | stored since arrived kind held registered sender parsed asked agrees opened single =>
    dsimp only
    rw [Dict.get?_insert]
    split
    · rename_i named
      subst named
      rw [single record earlier]
    · exact earlier
  | _ => exact earlier

theorem effect_issued_kept {l l' : Listener σ} (effect : Effect config callbacks moves origin timed l l')
    {commandId : String} {request : Int × List (String × Json)}
    (earlier : l.issuedCommands.get? commandId = some request) :
    l'.issuedCommands.get? commandId = some request := by
  cases effect with
  | quiet same =>
    rw [same.issuedCommands]
    exact earlier
  | issued rank body novel =>
    dsimp only
    rw [Dict.get?_insert]
    split
    · rename_i named
      subst named
      rw [novel] at earlier
      cases earlier
    · exact earlier
  | _ => exact earlier

/-- The frame's command is recorded for its rank, with its payload up to equality
    of decoded values. -/
def Recorded (l : Listener σ) (frame : SentFrame) : Prop :=
  ∃ commandId body, Json.lookup "command_id" frame.env.payload = some (.str commandId) ∧
    l.issuedCommands.get? commandId = some (frame.rank, body) ∧
      (body = frame.env.payload ∨ Json.pyEq (.obj body) (.obj frame.env.payload) = true)

def AllRecorded (l : Listener σ) : Prop := ∀ frame ∈ l.sent.filter SentFrame.isCommand, l.Recorded frame

theorem effect_recorded (l l' : Listener σ) (effect : Effect config callbacks moves origin timed l l')
    (all : l.AllRecorded) : l'.AllRecorded := by
  have kept : ∀ frame, l.Recorded frame → l'.Recorded frame := by
    rintro frame ⟨commandId, body, named, asked, same⟩
    exact ⟨commandId, body, named, effect_issued_kept effect asked, same⟩
  cases effect with
  | quiet same =>
    intro frame member
    rw [same.commands] at member
    exact kept frame (all frame member)
  | @commanded commandId rank body prior writer seq named asked same =>
    intro frame member
    unfold recordSent at member
    rw [List.filter_append, List.mem_append] at member
    rcases member with member | member
    · exact kept frame (all frame member)
    · rw [List.mem_singleton.mp (List.mem_of_mem_filter member)]
      exact ⟨commandId, prior, named, asked, same⟩
  | _ => exact fun frame member => kept frame (all frame member)

variable (config callbacks)

theorem step_results_new (l : Listener σ) (timed : Time × HeadEvent α) {commandId : String}
    {record : Int × CommandResult}
    (now : (l.step config callbacks timed).commandResults.get? commandId = some record) :
    l.commandResults.get? commandId = some record ∨
      l.commandResults.get? commandId = none ∧ Answers l timed commandId record := by
  have within : callbacks.Within fun _ _ => True := by constructor <;> intros <;> trivial
  exact (turn_step within l).invariant (fun _ _ effect earlier found => effect_results_new effect earlier found)
    Or.inl now

theorem run_results_kept {start : Listener σ} (later : List (Time × HeadEvent α)) {commandId : String}
    {record : Int × CommandResult} (stored : start.commandResults.get? commandId = some record) :
    (run (step config callbacks) start later).commandResults.get? commandId = some record := by
  have within : callbacks.Within fun _ _ => True := by constructor <;> intros <;> trivial
  exact run_turns within (fun _ _ _ _ effect earlier => effect_results_kept effect earlier) stored later

theorem run_issued_kept {start : Listener σ} (later : List (Time × HeadEvent α)) {commandId : String}
    {request : Int × List (String × Json)} (issued : start.issuedCommands.get? commandId = some request) :
    (run (step config callbacks) start later).issuedCommands.get? commandId = some request := by
  have within : callbacks.Within fun _ _ => True := by constructor <;> intros <;> trivial
  exact run_turns within (fun _ _ _ _ effect earlier => effect_issued_kept effect earlier) issued later

theorem run_recorded (owner : σ) (events : List (Time × HeadEvent α)) :
    (run (step config callbacks) { owner } events).AllRecorded := by
  have within : callbacks.Within fun _ _ => True := by constructor <;> intros <;> trivial
  exact run_turns within (fun _ _ => effect_recorded) (fun frame member => by cases member) events

theorem stored_by_answer (owner : σ) (events : List (Time × HeadEvent α)) {commandId : String}
    {record : Int × CommandResult}
    (stored : (run (step config callbacks) { owner } events).commandResults.get? commandId = some record) :
    ∃ before timed after, events = before ++ timed :: after ∧
      (run (step config callbacks) { owner } before).commandResults.get? commandId = none ∧
        Answers (run (step config callbacks) { owner } before) timed commandId record := by
  induction events using List.reverseRecOn with
  | nil => cases stored
  | append_singleton earlier timed ih =>
    rw [run_concat] at stored
    rcases step_results_new config callbacks _ timed stored with known | ⟨absent, answers⟩
    · obtain ⟨before, first, after, rfl, absent, answers⟩ := ih known
      exact ⟨before, first, after ++ [timed], by simp, absent, answers⟩
    · exact ⟨earlier, timed, [], rfl, absent, answers⟩

/-- Whatever happens to a listener: a stored result is the answer of the rank its
    command was issued to, given after the command was issued and in a session that
    may answer it, and it stays; an issued command stays as it was issued; and every
    COMMAND on the wire is recorded for its rank. -/
theorem command_records_settled (owner : σ) (events later : List (Time × HeadEvent α)) :
    let now := run (step config callbacks) { owner } events
    let afterwards := run (step config callbacks) { owner } (events ++ later)
    (∀ commandId record, now.commandResults.get? commandId = some record →
      (∃ before timed after, events = before ++ timed :: after ∧
        (run (step config callbacks) { owner } before).commandResults.get? commandId = none ∧
          Answers (run (step config callbacks) { owner } before) timed commandId record) ∧
        afterwards.commandResults.get? commandId = some record) ∧
      (∀ commandId request, now.issuedCommands.get? commandId = some request →
        afterwards.issuedCommands.get? commandId = some request) ∧
        ∀ frame ∈ now.sent, frame.env.kind = .command → now.Recorded frame := by
  intro now afterwards
  have continued : afterwards = run (step config callbacks) now later := run_append _ _ events later
  refine ⟨?_, ?_, ?_⟩
  · intro commandId record stored
    refine ⟨stored_by_answer config callbacks owner events stored, ?_⟩
    rw [continued]
    exact run_results_kept config callbacks later stored
  · intro commandId request issued
    rw [continued]
    exact run_issued_kept config callbacks later issued
  · intro frame member command
    have listed : frame ∈ now.sent.filter SentFrame.isCommand :=
      List.mem_filter.mpr ⟨member, by simp [SentFrame.isCommand, command]⟩
    exact run_recorded config callbacks owner events frame listed

end ExaServe.Control.Listener
